import BrailleDisplay.Proofs.Frame
import BrailleDisplay.Proofs.Session.Delivery
import BrailleDisplay.Proofs.Session.Handshake
import BrailleDisplay.Proofs.Session.Writes

/-!
# What is written

A session writes describe requests and frames, and at its end the stop sequence of its model. Each
frame is the one of the cells last accepted, from which these can be read back; so frames differ
exactly if the cells do. `Step.frame_move` sorts the steps of a session by their part in this.
-/
namespace BrailleDisplay

/-- The display wants another frame, or has named itself again and wants one for that. -/
def Event.WantsFrame (model : Model) (event : Event) : Prop :=
  event.heard? = some (.writing, Signal.takenMore) ∨ event.Identifies model

namespace Execution

variable {T : Type}

/-- The link is up, and the image is not what the display was given last. -/
def Owes (x : Execution T) : Prop := x.state.isConnected = true ∧ x.session.image.dirty = true

theorem FrameDue.owes {x : Execution T} (due : x.FrameDue) :
    x.Owes ∨ x.Idle ∧ x.state = .writing ∧
      x.session.config.writingTimeout < x.session.link.elapsed ∧ x.session.exhausted = false := by
  rcases due with ⟨dirty, ready⟩ | repeated
  · exact .inl ⟨by rw [ready]; rfl, dirty⟩
  · exact .inr repeated

end Execution

variable {T : Type}

/-- What a step has to do with frames. -/
inductive FrameMove (x y : Execution T) : Prop where
  | accepted {area : Area} {cells : List Cell}
      (written : x.session.image.write area cells = .ok y.session.image) (state : y.state = x.state)
      (history : y.history = x.history ++ [.shown area cells])
  /-- A frame is handed over. Either the transport takes it, or the link is down. -/
  | sent {frame : Frame} {accepted : Option Nat} (due : x.FrameDue)
      (built : x.session.image.frame? x.session.model.envelope = some frame)
      (regions : ∀ area, y.session.image.region area = x.session.image.region area)
      (paid : ¬ y.Owes)
      (history : y.history = x.history ++ [.called ⟨x.state, .write frame.bytes accepted⟩])
  | other (events : List Event) (history : y.history = x.history ++ events)
      (regions : ∀ area, y.session.image.region area = x.session.image.region area)
      (unshown : ∀ event ∈ events, ∀ area, event.shown? area = none)
      (asking : ∀ event ∈ events, ∀ data, event.written? = some data → data = [Signal.describe])
      (owing : y.Owes → x.Owes ∨ ∃ event ∈ events, event.WantsFrame x.session.model)

theorem Execution.asking_hear (x : Execution T) (byte : UInt8) (transport : T) (later : Option T) :
    ∃ events, (x.hear byte transport later).history = x.history ++ events ∧
      (∀ event ∈ events, ∀ area, event.shown? area = none) ∧
      (∀ event ∈ events, event.written? = none) ∧
      ∃ event ∈ events, event.heard? = some (x.state, byte) := by
  obtain ⟨awaits, history, waited⟩ := x.history_hear byte transport later
  refine ⟨_, history, ?_, ?_, _, List.mem_cons_self, rfl⟩
  · refine List.forall_mem_cons.mpr ⟨fun _ => rfl, fun event inside area => ?_⟩
    obtain ⟨timeout, rfl⟩ := waited event inside
    rfl
  · refine List.forall_mem_cons.mpr ⟨rfl, fun event inside => ?_⟩
    obtain ⟨timeout, rfl⟩ := waited event inside
    rfl

theorem asking_of_unwritten {events : List Event}
    (unwritten : ∀ event ∈ events, event.written? = none) :
    ∀ event ∈ events, ∀ data, event.written? = some data → data = [Signal.describe] := by
  intro event inside data written
  rw [unwritten event inside] at written
  cases written

namespace FrameMove

variable {x y : Execution T}

/-- A move that leaves the image alone and does not bring the link up comes to owe no frame. -/
theorem of_asking (image : y.session.image = x.session.image)
    (connected : y.state.isConnected = true → x.state.isConnected = true) {events : List Event}
    (history : y.history = x.history ++ events)
    (unshown : ∀ event ∈ events, ∀ area, event.shown? area = none)
    (asking : ∀ event ∈ events, ∀ data, event.written? = some data → data = [Signal.describe]) :
    FrameMove x y := by
  refine .other events history (fun area => by rw [image]) unshown asking ?_
  rintro ⟨up, dirty⟩
  exact .inl ⟨connected up, image ▸ dirty⟩

theorem of_history_eq (image : y.session.image = x.session.image)
    (connected : y.state.isConnected = true → x.state.isConnected = true)
    (history : y.history = x.history) : FrameMove x y := by
  have eventless : y.history = x.history ++ [] := history.trans (List.append_nil _).symm
  exact of_asking image connected eventless (List.forall_mem_nil _) (List.forall_mem_nil _)

theorem of_concat (image : y.session.image = x.session.image)
    (connected : y.state.isConnected = true → x.state.isConnected = true) {event : Event}
    (history : y.history = x.history ++ [event]) (unshown : ∀ area, event.shown? area = none)
    (asking : ∀ data, event.written? = some data → data = [Signal.describe]) : FrameMove x y :=
  of_asking image connected history (List.forall_mem_singleton.mpr unshown)
    (List.forall_mem_singleton.mpr asking)

theorem of_hear (byte : UInt8) (transport : T) (later : Option T)
    (image : y.session.image = x.session.image)
    (connected : y.state.isConnected = true → x.state.isConnected = true)
    (history : y.history = (x.hear byte transport later).history) : FrameMove x y := by
  obtain ⟨events, heard, unshown, unwritten, _⟩ := x.asking_hear byte transport later
  exact of_asking image connected (history.trans heard) unshown (asking_of_unwritten unwritten)

theorem of_wantsFrame (byte : UInt8) (transport : T) (later : Option T)
    (regions : ∀ area, y.session.image.region area = x.session.image.region area)
    (wants : ∀ event : Event, event.heard? = some (x.state, byte) →
      event.WantsFrame x.session.model)
    (history : y.history = (x.hear byte transport later).history) : FrameMove x y := by
  obtain ⟨events, heard, unshown, unwritten, event, inside, read⟩ :=
    x.asking_hear byte transport later
  exact .other events (history.trans heard) regions unshown (asking_of_unwritten unwritten)
    fun _ => .inr ⟨event, inside, wants event read⟩

end FrameMove

theorem Step.frame_move {x y : Execution T} (step : Step x y) (fits : x.session.Fits) :
    FrameMove x y := by
  cases step
  case accept written => exact .accepted written rfl rfl
  case aside | repeatChord => exact .of_history_eq rfl id rfl
  case giveUp => exact .of_history_eq rfl (by simp [LinkState.isConnected]) rfl
  case poll | readNothing => exact .of_concat rfl id rfl (fun _ => rfl) (by simp [Event.written?])
  case readFails =>
    exact .of_concat rfl (by simp [LinkState.isConnected]) rfl (fun _ => rfl)
      (by simp [Event.written?])
  case fault first second up =>
    refine .of_asking rfl ?_ (List.append_assoc _ _ _) ?_ (asking_of_unwritten ?_)
    · rw [Execution.state_map, Session.link_apply, Execution.link_await, Execution.link_read,
        Link.apply_disconnected up]
      simp [Link.enter, LinkState.isConnected]
    · exact List.forall_mem_cons.mpr ⟨fun _ => rfl, List.forall_mem_singleton.mpr fun _ => rfl⟩
    · exact List.forall_mem_cons.mpr ⟨rfl, List.forall_mem_singleton.mpr rfl⟩
  case announce transport =>
    exact .of_hear _ transport none rfl (by simp [LinkState.isConnected]) rfl
  case identify transport later awaits awaited plain =>
    refine .of_wantsFrame _ transport later ?_ ?_ rfl
    · exact fun area => congrArg (·.markDirty.region area) (x.image_hear _ _ _)
    · intro event read
      exact .inr (read.trans (by rw [awaited]))
  case acknowledge transport writing =>
    exact .of_hear _ transport none rfl (fun _ => by rw [writing]; rfl) rfl
  case acknowledgeMore transport writing =>
    refine .of_wantsFrame _ transport none (fun _ => rfl) ?_ rfl
    intro event read
    exact .inl (writing ▸ read)
  case key transport byte later _ connected _ _ =>
    exact .of_hear byte transport later (x.image_hear _ _ _) (fun _ => connected) rfl
  case ignore transport byte later _ _ _ _ =>
    refine .of_hear byte transport later (x.image_hear _ _ _) ?_ rfl
    rw [Execution.state, Execution.link_hear]
    exact id
  case frame transport frame due built =>
    exact .sent due built (fun _ => rfl) (fun owes => Bool.false_ne_true owes.2) rfl
  case frameFails transport frame accepted due built cut =>
    exact .sent due built (fun _ => rfl) (by simp [Execution.Owes, LinkState.isConnected]) rfl
  case refuse due refused =>
    obtain ⟨frame, built⟩ := fits.frame_built
    rw [built] at refused
    cases refused
  case probe transport due =>
    refine .of_concat rfl ?_ rfl (fun _ => rfl) (fun _ same => (Option.some.inj same).symm)
    rw [Execution.state_map, Session.link_apply, Execution.link_write,
      Link.apply_probed due.state_eq]
    simp [Link.enter, LinkState.isConnected]
  case probeFails =>
    exact .of_concat rfl (by simp [LinkState.isConnected]) rfl (fun _ => rfl)
      (fun _ same => (Option.some.inj same).symm)

/-! ## What a frame shows -/

/-- The frame of the cells last accepted: header, status cells, main cells and trailer, with as many
cells as the model has. The cells can be read back from it. -/
structure ShowsLast (model : Model) (events : List Event) (data : List UInt8) : Prop where
  built : data = model.envelope.header ++ (lastShown model .status events).map Cell.toDevice ++
    (lastShown model .main events).map Cell.toDevice ++ model.envelope.trailer
  sized (area : Area) : (lastShown model area events).length = model.cellsIn area
  read : model.cellsOf? data = some (lastShown model .status events, lastShown model .main events)

/-- What is written is a describe request or the frame of the cells last accepted. -/
def WritesWell (model : Model) (before : List Event) (event : Event) : Prop :=
  ∀ data, event.written? = some data → data = [Signal.describe] ∨ ShowsLast model before data

/-- In the history, a frame is written after the given events. -/
def FramedAfter (events before : List Event) (frame : List UInt8) : Prop :=
  ∃ event after accepted, events = before ++ event :: after ∧ event.frame? = some ⟨frame, accepted⟩

theorem Event.written?_of_frame? {event : Event} {sent : Dispatch}
    (framed : event.frame? = some sent) :
    event.written? = some sent.frame ∧ sent.frame ≠ [Signal.describe] := by
  unfold Event.frame? at framed
  split at framed
  · split_ifs at framed with asking
    cases framed
    exact ⟨rfl, asking⟩
  · cases framed

theorem Faithful.showsLast {x : Execution T} (h : Faithful x) {frame : Frame}
    (built : x.session.image.frame? x.session.model.envelope = some frame) :
    ShowsLast x.session.model x.history frame.bytes := by
  have sized (area : Area) : (lastShown x.session.model area x.history).length =
      x.session.model.cellsIn area := by
    rw [← h.cells]
    exact h.fits.sized area
  have bytes := h.frame_eq built
  exact ⟨bytes, sized, Model.cellsOf?_eq_some_iff.mpr ⟨bytes, sized .status, sized .main⟩⟩

/-- Frames of one model are equal exactly if they show the same cells. -/
theorem ShowsLast.frame_eq_iff {model : Model} {events events' : List Event}
    {data data' : List UInt8} (h : ShowsLast model events data)
    (h' : ShowsLast model events' data') :
    data = data' ↔ ∀ area, lastShown model area events = lastShown model area events' := by
  constructor
  · rintro rfl
    obtain ⟨status, main⟩ := Prod.mk.inj (Option.some.inj (h.read.symm.trans h'.read))
    intro area
    cases area with
    | main => exact main
    | status => exact status
  · intro same
    rw [h.built, h'.built, same, same]

/-- The image is faithful, and everything written so far was written well. -/
structure Legible (x : Execution T) : Prop where
  faithful : Faithful x
  legible : Throughout (WritesWell x.session.model) x.history

theorem Legible.step {x y : Execution T} (step : Step x y) (h : Legible x) : Legible y := by
  refine ⟨h.faithful.step step, ?_⟩
  rw [step.model_eq]
  cases step.frame_move h.faithful.fits with
  | accepted written state history =>
    rw [history]
    exact h.legible.concat nofun
  | sent due built regions paid history =>
    rw [history]
    refine h.legible.concat ?_
    intro data same
    cases same
    exact .inr (h.faithful.showsLast built)
  | other events history regions unshown asking owing =>
    rw [history]
    exact h.legible.append fun before event inside data written =>
      .inl (asking event inside data written)

theorem Throughout.showsLast {model : Model} {events before : List Event} {frame : List UInt8}
    (h : Throughout (WritesWell model) events) (framed : FramedAfter events before frame) :
    ShowsLast model before frame := by
  obtain ⟨event, after, accepted, split, framed⟩ := framed
  obtain ⟨written, other⟩ := Event.written?_of_frame? framed
  exact (h before event after split frame written).resolve_left other

namespace Session

/-! ## Frames can always be built -/

/-- The frame for the image as it is now can be built. -/
def CanFrame (s : Session T) : Prop := ∃ frame, s.image.frame? s.model.envelope = some frame

variable [Transport T]

/-- Wherever an operation goes on to send the image, the frame for it can be built. -/
structure AlwaysFrames (s : Session T) : Prop where
  /-- After a poll has read, it may send the image, either because it changed or once more. -/
  drained (elapsed : UInt32) : ((s.tick elapsed).drain false).2.CanFrame
  recovered (elapsed : UInt32) : ((s.tick elapsed).drain false).2.recover.CanFrame
  written {area : Area} {cells : List Cell} {image : Image} :
    s.image.write area cells = .ok image → { s with image }.CanFrame

/-- Sending the image leaves its cells alone. -/
theorem transmit_keeps (s : Session T) : s.transmit.model = s.model ∧
    ∀ area, s.transmit.image.region area = s.image.region area := by
  cases built : s.image.frame? s.model.envelope with
  | none =>
    rw [transmit, built]
    exact ⟨rfl, fun _ => rfl⟩
  | some frame =>
    obtain ⟨accepted, transport, sent⟩ := transmit_eq built
    rw [sent]
    split_ifs <;> exact ⟨rfl, fun _ => rfl⟩

theorem flush_keeps (s : Session T) : s.flush.model = s.model ∧
    ∀ area, s.flush.image.region area = s.image.region area := by
  unfold flush
  split_ifs
  · exact s.transmit_keeps
  · exact ⟨rfl, fun _ => rfl⟩

theorem recover_keeps (s : Session T) : s.recover.model = s.model ∧
    ∀ area, s.recover.image.region area = s.image.region area := by
  cases s.recovery with
  | rest same => rw [same]; exact ⟨rfl, fun _ => rfl⟩
  | giveUp _ _ _ given => rw [given]; exact ⟨rfl, fun _ => rfl⟩
  | probe _ probed =>
    obtain ⟨accepted, transport, sent⟩ := s.probe_eq
    rw [probed, sent]
    split_ifs <;> exact ⟨rfl, fun _ => rfl⟩
  | again _ _ _ sent =>
    rw [sent]
    exact transmit_keeps { s with image := s.image.markDirty }

theorem Fits.alwaysFrames {s : Session T} (h : s.Fits) : s.AlwaysFrames := by
  have drained (elapsed : UInt32) : ((s.tick elapsed).drain false).2.Fits :=
    (h.of_regions (t := s.tick elapsed) rfl fun _ => rfl).reaches (x := ⟨s.tick elapsed, []⟩)
      (drain_reaches _ false [])
  refine ⟨fun elapsed => (drained elapsed).frame_built, ?_, ?_⟩
  · intro elapsed
    obtain ⟨model, regions⟩ := recover_keeps ((s.tick elapsed).drain false).2
    exact ((drained elapsed).of_regions model regions).frame_built
  · intro area cells image written
    have accepted : Step (⟨s, []⟩ : Execution T) _ := .accept ⟨s, []⟩ written
    exact (accepted.fits h).frame_built

/-! ## From opening to closing -/

/-- Opening writes describe requests only. -/
theorem writtenIn_connect {line : Line T} {config : Config} {opened : Session T}
    (h : connect line config = .ok opened) :
    ∃ calls, opened.line.journal = line.journal ++ calls ∧
      ∀ data ∈ writtenIn (calls.map .called), data = [Signal.describe] := by
  obtain ⟨calls, transport, result, opens⟩ :=
    Handshake.exists_opens config (max 1 config.openAttempts.toNat) line.transport
  obtain ⟨asked, tally⟩ := opens.asked
  have connected : connect line config = opening (line.unlinked calls transport) config result :=
    welcome_of_opens opens rfl
  rw [h] at connected
  cases result with
  | error error => cases connected
  | ok model =>
    cases connected
    refine ⟨_, rfl, ?_⟩
    have same : Event.written? ∘ Event.called ∘ (⟨.off, ·⟩ : Call → Entry) = Call.written? := by
      funext call
      cases call <;> rfl
    rw [writtenIn, List.map_map, List.filterMap_map, same, tally.written]
    exact fun data inside => List.eq_of_mem_replicate inside

/-- Closing writes the stop sequence of the model if there is one, and nothing else. -/
theorem writtenIn_close (s : Session T) : ∃ calls, s.close.journal = s.line.journal ++ calls ∧
    writtenIn (calls.map .called) = if s.model.stop = [] then [] else [s.model.stop] := by
  unfold close
  by_cases empty : s.model.stop = []
  · simp only [empty, List.isEmpty_nil, if_true]
    exact ⟨[], (List.append_nil _).symm, rfl⟩
  · rw [if_neg (by simpa using empty), if_neg empty]
    exact ⟨_, rfl, rfl⟩

theorem legible_of_connect {line : Line T} {config : Config} {opened : Session T}
    (h : connect line config = .ok opened) (operations : List (Operation T)) :
    Throughout (WritesWell opened.model) (opened.history operations) := by
  have path := run_path opened operations []
  have start : Legible (⟨opened, []⟩ : Execution T) :=
    ⟨faithful_of_connect h, fun before event after split => by simp at split⟩
  have model : (opened.run operations).2.model = opened.model := path.model_eq
  rw [← model]
  exact (path.keeps Legible.step start).legible

/-- Everything that a session writes is well formed, and its frames can be read. Opening writes
describe requests; after any operations the frame for the image can be built wherever it is needed;
what was written is a describe request or the frame of the cells last accepted; and closing writes
the stop sequence of the model, if there is one. So the frames of any two sessions with displays of
the same model are equal exactly if the cells last accepted before them are. -/
theorem writes_are_well_formed {line : Line T} {config : Config} {opened : Session T}
    (h : connect line config = .ok opened) (operations : List (Operation T)) :
    let events := opened.history operations
    let session := (opened.run operations).2
    (∃ calls, opened.line.journal = line.journal ++ calls ∧
      ∀ data ∈ writtenIn (calls.map .called), data = [Signal.describe]) ∧
    session.AlwaysFrames ∧
    Throughout (WritesWell opened.model) events ∧
    (∃ calls, session.close.journal = session.line.journal ++ calls ∧
      writtenIn (calls.map .called) =
        if opened.model.stop = [] then [] else [opened.model.stop]) ∧
    ∀ {U : Type} [Transport U] {line' : Line U} {config' : Config} {other : Session U},
      connect line' config' = .ok other → other.model = opened.model →
      ∀ operations' before before' frame frame', FramedAfter events before frame →
        FramedAfter (other.history operations') before' frame' →
        (frame = frame' ↔ ∀ area,
          lastShown opened.model area before = lastShown opened.model area before') := by
  have path := run_path opened operations []
  have model : (opened.run operations).2.model = opened.model := path.model_eq
  have legible := legible_of_connect h operations
  refine ⟨writtenIn_connect h, (path.fits (fits_of_connect h)).alwaysFrames, legible, ?_, ?_⟩
  · rw [← model]
    exact writtenIn_close _
  · intro U _ line' config' other h' same operations' before before' frame frame' framed framed'
    have legible' := legible_of_connect h' operations'
    rw [same] at legible'
    exact (legible.showsLast framed).frame_eq_iff (legible'.showsLast framed')

/-- A Bookworm gets the same frame twice. In the second run other cells are shown before, but the
cells that this frame shows are the same. -/
theorem writes_are_well_formed_bookworm : ∃ opened : Session ScriptedTransport,
    connect ⟨{ replies := [[0xFE, 0xFE, 0x90]] }, []⟩ {} = .ok opened ∧
    let first := opened.history [.write .main (List.replicate 8 3)]
    let second := opened.history [.write .main (List.replicate 8 5),
      .device (·.receive [0x7E]), .poll 5, .write .main (List.replicate 8 3)]
    FramedAfter first first.dropLast ([0x01] ++ List.replicate 8 9 ++ [0x16]) ∧
    FramedAfter second second.dropLast ([0x01] ++ List.replicate 8 9 ++ [0x16]) ∧
    ∀ area, lastShown opened.model area first.dropLast =
      lastShown opened.model area second.dropLast := by
  let frame : List UInt8 := [0x01] ++ List.replicate 8 9 ++ [0x16]
  let sent : Event := .called ⟨.ready, .write frame (some 10)⟩
  let first : List (Operation ScriptedTransport) := [.write .main (List.replicate 8 3)]
  let second : List (Operation ScriptedTransport) := [.write .main (List.replicate 8 5),
    .device (·.receive [0x7E]), .poll 5, .write .main (List.replicate 8 3)]
  obtain ⟨opened, connected⟩ := exists_connect (T := ScriptedTransport)
    ⟨{ replies := [[0xFE, 0xFE, 0x90]] }, []⟩ {} (by decide +kernel)
  have framed (operations : List (Operation ScriptedTransport))
      (last : opened.history operations = (opened.history operations).dropLast ++ [sent]) :
      FramedAfter (opened.history operations) (opened.history operations).dropLast frame :=
    ⟨sent, [], some 10, last, by decide⟩
  have once := framed first <| of_decide_eq_true <| of_connect connected
    (fun s => decide (s.history first = (s.history first).dropLast ++ [sent])) (by decide +kernel)
  have again := framed second <| of_decide_eq_true <| of_connect connected
    (fun s => decide (s.history second = (s.history second).dropLast ++ [sent])) (by decide +kernel)
  obtain ⟨-, -, -, -, alike⟩ := writes_are_well_formed connected first
  exact ⟨opened, connected, once, again, (alike connected rfl second _ _ _ _ once again).mp rfl⟩

end Session

end BrailleDisplay
