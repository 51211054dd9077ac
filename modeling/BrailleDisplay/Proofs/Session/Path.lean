import BrailleDisplay.Proofs.Link
import BrailleDisplay.Proofs.Session.Step
import Mathlib.Tactic.SplitIfs

/-!
# Operations are paths

Each function of a session takes it along a path of steps and adds to the history exactly the calls
that it adds to the journal. Whole runs follow: `Session.run_path`.
-/
namespace BrailleDisplay

variable {T : Type}

namespace Execution

/-- From the first execution to the second, nothing but calls is added to the history, and the
same calls are added to the journal. -/
def Calls (x y : Execution T) : Prop :=
  ∃ calls, y.session.line.journal = x.session.line.journal ++ calls ∧
    y.history = x.history ++ calls.map .called

theorem Calls.refl (x : Execution T) : x.Calls x :=
  ⟨[], (List.append_nil _).symm, (List.append_nil _).symm⟩

theorem Calls.trans {x y z : Execution T} (first : x.Calls y) (second : y.Calls z) : x.Calls z := by
  obtain ⟨calls, journal, history⟩ := first
  obtain ⟨more, journal', history'⟩ := second
  refine ⟨calls ++ more, ?_, ?_⟩
  · rw [journal', journal, List.append_assoc]
  · rw [history', history, List.map_append, List.append_assoc]

theorem Calls.call (x : Execution T) (call : Call) (transport : T) :
    x.Calls (x.call call transport) :=
  ⟨[⟨x.state, call⟩], rfl, rfl⟩

theorem Calls.map {x y : Execution T} (h : x.Calls y) {f : Session T → Session T}
    (keeps : (f y.session).line.journal = y.session.line.journal) : x.Calls (y.map f) := by
  obtain ⟨calls, journal, history⟩ := h
  exact ⟨calls, keeps.trans journal, history⟩

theorem Calls.hear (x : Execution T) (byte : UInt8) (transport : T) (later : Option T) :
    x.Calls (x.hear byte transport later) := by
  cases later with
  | none => exact .call x _ transport
  | some later => exact (Calls.call x _ transport).trans (.call _ _ later)

theorem Awaits.eq_none {x : Execution T} {byte : UInt8} {later : Option T}
    (h : x.Awaits byte later) (ne : byte ≠ Signal.fault) : later = none :=
  Option.not_isSome_iff_eq_none.mp fun some => ne (h.mp some).1

/-- The session is reached, and only calls happen on the way. -/
def Reaches (x : Execution T) (session : Session T) : Prop :=
  ∃ y, y.session = session ∧ Path x y ∧ x.Calls y

theorem Reaches.refl (x : Execution T) : x.Reaches x.session := ⟨x, rfl, .refl, .refl x⟩

theorem reaches_of_step {x y : Execution T} (step : Step x y) (calls : x.Calls y) :
    x.Reaches y.session :=
  ⟨y, rfl, .single step, calls⟩

theorem Reaches.head {x y : Execution T} {s : Session T} (step : Step x y) (calls : x.Calls y)
    (rest : y.Reaches s) : x.Reaches s := by
  obtain ⟨z, hz, path, calls'⟩ := rest
  exact ⟨z, hz, .head step path, calls.trans calls'⟩

theorem Reaches.trans {x : Execution T} {s t : Session T} (first : x.Reaches s)
    (second : ∀ history, Reaches ⟨s, history⟩ t) : x.Reaches t := by
  obtain ⟨y, rfl, path, calls⟩ := first
  obtain ⟨z, rfl, path', calls'⟩ := second y.history
  exact ⟨z, rfl, path.trans path', calls.trans calls'⟩

/-- The history that belongs to a session reached is the one that its journal gives. -/
theorem Reaches.path {x : Execution T} {s : Session T} (h : x.Reaches s) :
    Path x ⟨s, x.history ++ (x.session.callsUntil s).map .called⟩ := by
  obtain ⟨⟨_, history⟩, rfl, path, calls, journal, rfl⟩ := h
  rwa [Session.callsUntil, journal, List.drop_left]

end Execution

open Execution

namespace Session

variable [Transport T]

/-! ## Calls -/

/-- At most one byte is asked for, so the journal shows what is answered. -/
theorem readByte_eq {s rest : Session T} {answer : Except TransportFault (Option UInt8)}
    (h : s.readByte = (answer, rest)) :
    ∃ transport, rest =
      s.after (.read 1 s.config.readTimeout (answer.toOption.map Option.toList)) transport := by
  cases hr : Transport.read s.line.transport 1 s.config.readTimeout with
  | mk given transport =>
    have hs : s.readByte = (given.map List.head?,
        s.after (.read 1 s.config.readTimeout given.toOption) transport) := by
      simp only [readByte, Line.readByte, Line.read, hr]; rfl
    obtain ⟨rfl, rfl⟩ := Prod.mk.inj (h.symm.trans hs)
    cases given with
    | error fault => exact ⟨transport, rfl⟩
    | ok bytes =>
      have short := Transport.length_read_le hr
      cases bytes with
      | nil => exact ⟨transport, rfl⟩
      | cons byte more =>
        cases more with
        | nil => exact ⟨transport, rfl⟩
        | cons => simp at short

theorem awaitMore_eq (s : Session T) :
    ∃ more transport, s.awaitMore =
      (more, s.after (.await s.config.disconnectGrace more) transport) :=
  ⟨_, _, rfl⟩

theorem send_eq (s : Session T) (data : List UInt8) :
    ∃ accepted transport, s.send data =
      (accepted == some data.length, s.after (.write data accepted) transport) :=
  ⟨_, _, rfl⟩

/-! ## Hearing -/

/-- What becomes of a byte that is neither an announcement nor a confirmed fault. -/
inductive Treats {T : Type} (s : Session T) (byte : UInt8) : Reaction → Session T → Prop where
  /-- The display is not identified, and the byte does not identify it. -/
  | ignored {reaction : Reaction} (apart : s.link.state.isConnected = false)
      (other : s.link.state = .identifying → byte ≠ s.model.identifier)
      (unkeyed : ∀ command, reaction ≠ .key command) : Treats s byte reaction s
  | identified (state : s.link.state = .identifying) (named : byte = s.model.identifier) :
      Treats s byte .handled ({ s with
        keyboard := s.keyboard.clear, image := s.image.markDirty }.apply .identified)
  | acknowledged (state : s.link.state = .writing) (taken : byte = Signal.taken) :
      Treats s byte .handled (s.apply .acknowledged)
  | acknowledgedMore (state : s.link.state = .writing) (taken : byte = Signal.takenMore) :
      Treats s byte .handled ({ s with image := s.image.markDirty }.apply .acknowledged)
  | keyed (connected : s.link.state.isConnected = true)
      (unacknowledged : s.link.state = .writing → byte ≠ Signal.taken ∧ byte ≠ Signal.takenMore) :
      Treats s byte (s.hearKey byte).1 (s.hearKey byte).2

omit [Transport T] in
theorem treats_hearInState (s : Session T) (byte : UInt8) :
    s.Treats byte (s.hearInState byte).1 (s.hearInState byte).2 := by
  unfold hearInState
  cases state : s.link.state with
  | off => exact .ignored (by rw [state]; rfl) (by simp [state]) nofun
  | resetting => exact .ignored (by rw [state]; rfl) (by simp [state]) nofun
  | identifying =>
    dsimp only
    split_ifs with named
    · exact .identified state named
    · exact .ignored (by rw [state]; rfl) (fun _ => named) nofun
  | writing =>
    dsimp only
    split_ifs with more taken
    · exact .acknowledgedMore state more
    · exact .acknowledged state taken
    · exact .keyed (by rw [state]; rfl) fun _ => ⟨taken, more⟩
  | ready => exact .keyed (by rw [state]; rfl) (by simp [state])

omit [Transport T] in
theorem treats_of_hearInState {s t : Session T} {byte : UInt8} {reaction : Reaction}
    (heard : s.hearInState byte = (reaction, t)) : s.Treats byte reaction t := by
  have treats := s.treats_hearInState byte
  rwa [heard] at treats

omit [Transport T] in
/-- A byte concerns the link, the image and the keyboard. -/
theorem Treats.frame {s t : Session T} {byte : UInt8} {reaction : Reaction}
    (h : s.Treats byte reaction t) :
    t.line = s.line ∧ t.model = s.model ∧ t.config = s.config ∧ t.countdown = s.countdown := by
  cases h <;> exact ⟨rfl, rfl, rfl, rfl⟩

omit [Transport T] in
theorem hearInState_line (s : Session T) (byte : UInt8) :
    (s.hearInState byte).2.line = s.line :=
  (s.treats_hearInState byte).frame.1

omit [Transport T] in
theorem hearInState_journal (s : Session T) (byte : UInt8) :
    (s.hearInState byte).2.line.journal = s.line.journal :=
  congrArg Line.journal (s.hearInState_line byte)

omit [Transport T] in
theorem step_hearInState (x : Execution T) {byte : UInt8} (transport : T) {later : Option T}
    (awaits : x.Awaits byte later) (plain : byte ≠ Signal.announce) :
    Step x ((x.hear byte transport later).map fun s => (s.hearInState byte).2) := by
  have ignored (stays : ((x.hear byte transport later).session.hearInState byte).2 =
        (x.hear byte transport later).session) (apart : x.state.isConnected = false)
      (other : x.state = .identifying → byte ≠ x.session.model.identifier) :
      Step x ((x.hear byte transport later).map fun s => (s.hearInState byte).2) := by
    rw [Execution.map, stays]
    exact .ignore x transport awaits apart plain other
  have state : x.session.link.state = x.state := rfl
  cases h : x.state with
  | off => exact ignored (by simp [hearInState, state, h]) (by rw [h]; rfl) (by simp [h])
  | resetting => exact ignored (by simp [hearInState, state, h]) (by rw [h]; rfl) (by simp [h])
  | identifying =>
    by_cases named : byte = x.session.model.identifier
    · subst named
      simpa [Execution.map, hearInState, state, h] using
        Step.identify x transport awaits h plain
    · exact ignored (by simp [hearInState, state, h, named]) (by rw [h]; rfl) (fun _ => named)
  | writing =>
    by_cases more : byte = Signal.takenMore
    · subst more
      obtain rfl := awaits.eq_none (by decide)
      simpa [Execution.map, hearInState, state, h] using Step.acknowledgeMore x transport h
    · by_cases taken : byte = Signal.taken
      · subst taken
        obtain rfl := awaits.eq_none (by decide)
        simpa [Execution.map, hearInState, state, h, more] using Step.acknowledge x transport h
      · simpa [Execution.map, hearInState, state, h, more, taken] using
          Step.key x transport awaits (by rw [h]; rfl) plain fun _ => ⟨taken, more⟩
  | ready =>
    simpa [Execution.map, hearInState, state, h] using
      Step.key x transport awaits (by rw [h]; rfl) plain (by simp [h])

/-- A byte that has been read is dealt with. -/
theorem hear_reaches (x : Execution T) (byte : UInt8) (transport : T) :
    x.Reaches ((x.read (some [byte]) transport).session.hear byte).2 := by
  obtain ⟨more, second, awaited⟩ := (x.read (some [byte]) transport).session.awaitMore_eq
  unfold hear
  split
  · next act =>
    obtain ⟨rfl, up⟩ := act
    rw [awaited]
    cases more with
    | true =>
      have awaits : x.Awaits Signal.fault (some second) := ⟨fun _ => ⟨rfl, up⟩, fun _ => rfl⟩
      exact reaches_of_step (step_hearInState x transport awaits (by decide))
        ((Calls.hear x _ transport (some second)).map (hearInState_journal _ _))
    | false =>
      exact reaches_of_step (.fault x transport second up)
        (((Calls.call x _ transport).trans (.call _ _ second)).map rfl)
  · next act =>
    split
    · next same =>
      subst same
      exact reaches_of_step (.announce x transport) ((Calls.call x _ transport).map rfl)
    · next plain =>
      have awaits : x.Awaits byte none := ⟨nofun, fun h => absurd h act⟩
      exact reaches_of_step (step_hearInState x transport awaits plain)
        ((Calls.hear x byte transport none).map (hearInState_journal _ _))

/-! ## Reading until nothing comes -/

theorem drain_reaches (s : Session T) (heard : Bool) (history : List Event) :
    Reaches ⟨s, history⟩ (s.drain heard).2 := by
  fun_induction drain s heard generalizing history with
  | case1 s heard fault rest h =>
    obtain ⟨transport, rfl⟩ := readByte_eq h
    exact reaches_of_step (.readFails ⟨s, history⟩ transport) ((Calls.call _ _ transport).map rfl)
  | case2 s heard rest h =>
    obtain ⟨transport, rfl⟩ := readByte_eq h
    exact reaches_of_step (.readNothing ⟨s, history⟩ transport) (.call _ _ transport)
  | case3 s heard byte rest h command _ =>
    obtain ⟨transport, rfl⟩ := readByte_eq h
    exact hear_reaches ⟨s, history⟩ byte transport
  | case4 s heard byte rest h _ ih =>
    obtain ⟨transport, rfl⟩ := readByte_eq h
    exact (hear_reaches ⟨s, history⟩ byte transport).trans ih
  | case5 s heard byte rest h _ ih =>
    obtain ⟨transport, rfl⟩ := readByte_eq h
    exact (hear_reaches ⟨s, history⟩ byte transport).trans ih

/-- Once a byte has been heard, that is not forgotten. -/
theorem drain_true (s : Session T) : (s.drain true).1 ≠ .dry false := by
  generalize hheard : true = heard
  fun_induction drain s heard with
  | case1 | case2 | case3 => simp_all
  | case4 _ _ _ _ _ _ ih => exact ih rfl
  | case5 _ _ _ _ _ _ ih => exact ih rfl

/-- Nothing is heard only if the very first read hands nothing over. -/
theorem drain_silent {s rest : Session T} (h : s.drain false = (.dry false, rest)) :
    (∃ transport, rest = (s.after (.read 1 s.config.readTimeout none) transport).apply .faulted) ∨
    ∃ transport, rest = s.after (.read 1 s.config.readTimeout (some [])) transport := by
  rw [drain] at h
  split at h
  · next read =>
    obtain ⟨transport, rfl⟩ := readByte_eq read
    exact .inl ⟨transport, (Prod.mk.inj h).2.symm⟩
  · next read =>
    obtain ⟨transport, rfl⟩ := readByte_eq read
    exact .inr ⟨transport, (Prod.mk.inj h).2.symm⟩
  · split at h
    · cases h
    · exact absurd (congrArg Prod.fst h) (drain_true _)
    · exact absurd (congrArg Prod.fst h) (drain_true _)

/-! ## Writing -/

theorem transmit_reaches {x : Execution T} (due : x.FrameDue) :
    x.Reaches { x.session with image := x.session.image.markDirty }.transmit := by
  unfold transmit
  cases built : x.session.image.frame? x.session.model.envelope with
  | none =>
    have refused : x.session.image.markDirty.frame? x.session.model.envelope = none := built
    simp only [refused]
    exact reaches_of_step (.refuse x due built) ((Calls.refl x).map rfl)
  | some frame =>
    have ready : x.session.image.markDirty.frame? x.session.model.envelope = some frame := built
    obtain ⟨accepted, transport, sent⟩ :=
      send_eq { x.session with image := x.session.image.markDirty } frame.bytes
    simp only [ready, sent]
    by_cases whole : accepted = some frame.bytes.length
    · subst whole
      simp only [BEq.rfl]
      exact reaches_of_step (.frame x transport due built) ((Calls.call x _ transport).map rfl)
    · simp only [beq_eq_false_iff_ne.mpr whole]
      exact reaches_of_step (.frameFails x transport due built whole)
        ((Calls.call x _ transport).map rfl)

theorem flush_reaches (x : Execution T) : x.Reaches x.session.flush := by
  unfold flush
  split
  · next wanted =>
    have ready : x.state = .ready := by
      have := wanted.2
      cases h : x.session.link.state <;> simp_all [LinkState.acceptsFrames, Execution.state]
    have same : { x.session with image := x.session.image.markDirty } = x.session := by
      rw [Image.markDirty, ← wanted.1]
    have reaches := transmit_reaches (x := x) (.inl ⟨wanted.1, ready⟩)
    rwa [same] at reaches
  · exact .refl x

theorem probe_reaches {x : Execution T} (due : x.ProbeDue) : x.Reaches x.session.probe := by
  obtain ⟨accepted, transport, sent⟩ := send_eq x.session [Signal.describe]
  unfold probe
  rw [sent]
  by_cases whole : accepted = some 1
  · subst whole
    exact reaches_of_step (.probe x transport due) ((Calls.call x _ transport).map rfl)
  · have cut : (accepted == some [Signal.describe].length) = false := beq_eq_false_iff_ne.mpr whole
    simp only [cut]
    exact reaches_of_step (.probeFails x transport due whole) ((Calls.call x _ transport).map rfl)

theorem recover_off {s : Session T} (h : s.link.state = .off) : s.recover = s := by
  rw [recover, h]

theorem recover_writing {s : Session T} (writing : s.link.state = .writing)
    (late : s.config.writingTimeout < s.link.elapsed) :
    s.recover = if s.exhausted then s.probe
      else { s with image := s.image.markDirty }.transmit := by
  simp only [recover, writing, if_neg (UInt32.not_le.mpr late)]

theorem recover_resetting {s : Session T} (resetting : s.link.state = .resetting)
    (late : s.config.resettingTimeout < s.link.elapsed) :
    s.recover = if s.exhausted then s.apply .exhausted else s.probe := by
  simp only [recover, resetting, if_neg (UInt32.not_le.mpr late)]

/-- What acting on a timeout comes to, and when. -/
inductive Recovery (s : Session T) : Prop where
  | rest (same : s.recover = s)
      (early : s.link.state = .off ∨ s.link.state = .ready ∨
        s.link.elapsed ≤ s.config.resettingTimeout ∨
        s.link.elapsed ≤ s.config.identifyingTimeout ∨ s.link.elapsed ≤ s.config.writingTimeout)
  | giveUp (resetting : s.link.state = .resetting)
      (late : s.config.resettingTimeout < s.link.elapsed) (exhausted : s.exhausted = true)
      (given : s.recover = s.apply .exhausted)
  | probe (due : s.ProbeDue) (probed : s.recover = s.probe)
  | again (writing : s.link.state = .writing) (late : s.config.writingTimeout < s.link.elapsed)
      (left : s.exhausted = false)
      (sent : s.recover = { s with image := s.image.markDirty }.transmit)

theorem recovery (s : Session T) : Recovery s := by
  cases h : s.link.state with
  | off => exact .rest (by rw [recover, h]) (.inl h)
  | ready => exact .rest (by rw [recover, h]) (.inr (.inl h))
  | resetting =>
    by_cases early : s.link.elapsed ≤ s.config.resettingTimeout
    · exact .rest (by simp only [recover, h, if_pos early]) (.inr (.inr (.inl early)))
    · have late := UInt32.not_le.mp early
      cases exhausted : s.exhausted with
      | true => exact .giveUp h late exhausted (by simp [recover, h, early, exhausted])
      | false =>
        exact .probe (.inl ⟨h, late, exhausted⟩) (by simp [recover, h, early, exhausted])
  | identifying =>
    by_cases early : s.link.elapsed ≤ s.config.identifyingTimeout
    · exact .rest (by simp only [recover, h, if_pos early]) (.inr (.inr (.inr (.inl early))))
    · exact .probe (.inr (.inl ⟨h, UInt32.not_le.mp early⟩))
        (by simp only [recover, h, if_neg early])
  | writing =>
    by_cases early : s.link.elapsed ≤ s.config.writingTimeout
    · exact .rest (by simp only [recover, h, if_pos early]) (.inr (.inr (.inr (.inr early))))
    · have late := UInt32.not_le.mp early
      cases exhausted : s.exhausted with
      | true =>
        exact .probe (.inr (.inr ⟨h, late, exhausted⟩)) (by simp [recover, h, early, exhausted])
      | false => exact .again h late exhausted (by simp [recover, h, early, exhausted])

theorem recover_reaches {x : Execution T} (idle : x.Idle) : x.Reaches x.session.recover := by
  cases x.session.recovery with
  | rest same =>
    rw [same]
    exact .refl x
  | giveUp resetting late exhausted given =>
    rw [given]
    exact reaches_of_step (.giveUp x idle resetting late exhausted) ((Calls.refl x).map rfl)
  | probe due probed =>
    rw [probed]
    exact probe_reaches ⟨idle, due⟩
  | again writing late left sent =>
    rw [sent]
    exact transmit_reaches (.inr ⟨idle, writing, late, left⟩)

/-! ## Whole operations -/

omit [Transport T] in
theorem countdown_reaches (x : Execution T) (countdown : UInt8) :
    x.Reaches { x.session with countdown } :=
  reaches_of_step (.aside x x.session.line.transport x.session.context countdown)
    ((Calls.refl x).map rfl)

omit [Transport T] in
theorem autorepeat_reaches (x : Execution T) : x.Reaches x.session.autorepeat.2 := by
  unfold autorepeat
  dsimp only
  by_cases waiting : countDown x.session.countdown ≠ 0
  · rw [if_pos waiting]
    exact countdown_reaches x _
  · rw [if_neg waiting]
    by_cases connected : x.session.link.state.isConnected = true
    · rw [if_pos connected]
      have repeated : x.Reaches { x.session with
          keyboard := (x.session.keyboard.repeatHeld x.session.model).2 } :=
        reaches_of_step (.repeatChord x connected) ((Calls.refl x).map rfl)
      exact repeated.trans fun history => countdown_reaches ⟨_, history⟩ _
    · rw [if_neg connected]
      exact countdown_reaches x _

omit [Transport T] in
theorem autorepeat_link (s : Session T) : s.autorepeat.2.link = s.link := by
  unfold autorepeat
  dsimp only
  split_ifs <;> rfl

omit [Transport T] in
theorem autorepeat_image (s : Session T) : s.autorepeat.2.image = s.image := by
  unfold autorepeat
  dsimp only
  split_ifs <;> rfl

omit [Transport T] in
theorem autorepeat_line (s : Session T) : s.autorepeat.2.line = s.line := by
  unfold autorepeat
  dsimp only
  split_ifs <;> rfl

/-- Before it may repeat a chord, a poll ends with a flush. -/
theorem poll_flushes (s : Session T) (elapsed : UInt32) (history : List Event) :
    ∃ t, Reaches ⟨s.tick elapsed, history ++ [.polled elapsed s.link]⟩ t ∧
      ((s.poll elapsed).2 = t.flush ∨ (s.poll elapsed).2 = t.flush.autorepeat.2) := by
  have drained := drain_reaches (s.tick elapsed) false (history ++ [.polled elapsed s.link])
  unfold poll
  cases outcome : (s.tick elapsed).drain false with
  | mk result rest =>
    rw [outcome] at drained
    match result with
    | .key command =>
      exact ⟨_, drained.trans fun h => countdown_reaches ⟨rest, h⟩ _, .inl rfl⟩
    | .dry true => exact ⟨rest, drained, .inr rfl⟩
    | .dry false =>
      rcases drain_silent outcome with ⟨transport, rfl⟩ | ⟨transport, rfl⟩
      · -- The failed read has taken the link down, which leaves nothing to recover.
        exact ⟨_, drained, .inr (by dsimp only; rw [recover_off (by simp [apply])])⟩
      · let x : Execution T := ⟨s.tick elapsed, history ++ [.polled elapsed s.link]⟩
        have idle : (x.read (some []) transport).Idle :=
          ⟨history, elapsed, s.link, _, _, List.append_assoc _ _ _, rfl⟩
        exact ⟨_, .head (.readNothing x transport) (.call x _ transport) (recover_reaches idle),
          .inr rfl⟩

/-- A poll lets time pass and is otherwise a path of calls. -/
theorem poll_reaches (s : Session T) (elapsed : UInt32) (history : List Event) :
    Reaches ⟨s.tick elapsed, history ++ [.polled elapsed s.link]⟩ (s.poll elapsed).2 := by
  obtain ⟨t, reached, flushed | repeated⟩ := poll_flushes s elapsed history
  · rw [flushed]
    exact reached.trans fun h => flush_reaches ⟨t, h⟩
  · rw [repeated]
    exact (reached.trans fun h => flush_reaches ⟨t, h⟩).trans fun h => autorepeat_reaches ⟨_, h⟩

theorem write_error {s : Session T} {area : Area} {cells : List Cell} {mismatch : CellMismatch}
    (h : s.image.write area cells = .error mismatch) : s.write area cells = .error mismatch := by
  rw [write, h]; rfl

theorem write_main {s : Session T} {cells : List Cell} {image : Image}
    (h : s.image.write .main cells = .ok image) :
    s.write .main cells = .ok { s with image }.flush := by
  rw [write, h]; rfl

theorem write_status {s : Session T} {cells : List Cell} {image : Image}
    (h : s.image.write .status cells = .ok image) :
    s.write .status cells = .ok { s with image } := by
  rw [write, h]; rfl

/-- A write that is accepted changes the image and is otherwise a path of calls. -/
theorem write_reaches {s next : Session T} {area : Area} {cells : List Cell} {image : Image}
    (written : s.image.write area cells = .ok image) (h : s.write area cells = .ok next)
    (history : List Event) : Reaches ⟨{ s with image }, history⟩ next := by
  cases area with
  | main =>
    rw [write_main written] at h
    cases h
    exact flush_reaches ⟨_, history⟩
  | status =>
    rw [write_status written] at h
    cases h
    exact .refl ⟨_, history⟩

theorem perform_refused {s : Session T} {area : Area} {cells : List Cell} {mismatch : CellMismatch}
    (h : s.image.write area cells = .error mismatch) :
    s.perform (.write area cells) = (.refused mismatch, s) := by
  simp only [perform, write_error h]

theorem events_refused {s : Session T} {area : Area} {cells : List Cell} {mismatch : CellMismatch}
    (h : s.image.write area cells = .error mismatch) : s.events (.write area cells) = [] := by
  simp [events, heading, perform_refused h, callsUntil]

theorem perform_write {s next : Session T} {area : Area} {cells : List Cell}
    (done : s.write area cells = .ok next) : s.perform (.write area cells) = (.done, next) := by
  simp only [perform, done]

theorem events_write {s next : Session T} {area : Area} {cells : List Cell}
    (done : s.write area cells = .ok next) : s.events (.write area cells) =
      .shown area cells :: (s.callsUntil next).map .called := by
  rw [events, perform_write done]
  rfl

/-- An operation is a path of steps, which adds its events to the history. -/
theorem perform_path (s : Session T) (operation : Operation T) (history : List Event) :
    Path ⟨s, history⟩ ⟨(s.perform operation).2, history ++ s.events operation⟩ := by
  cases operation with
  | poll elapsed =>
    have path := (poll_reaches s elapsed history).path
    rw [List.append_assoc] at path
    exact .head (.poll ⟨s, history⟩ elapsed) path
  | write area cells =>
    cases written : s.image.write area cells with
    | error mismatch =>
      rw [perform_refused written, events_refused written, List.append_nil]
    | ok image =>
      obtain ⟨next, done⟩ : ∃ next, s.write area cells = .ok next := by
        cases area with
        | main => exact ⟨_, write_main written⟩
        | status => exact ⟨_, write_status written⟩
      have path := (write_reaches written done (history ++ [.shown area cells])).path
      rw [List.append_assoc] at path
      rw [perform_write done, events_write done]
      exact .head (.accept ⟨s, history⟩ written) path
  | setContext context =>
    have none : s.events (.setContext context) = [] := by
      simp [events, heading, perform, callsUntil, setContext]
    rw [none, List.append_nil]
    exact .single (.aside ⟨s, history⟩ s.line.transport context s.countdown)
  | device act =>
    have none : s.events (.device act) = [] := by
      simp [events, heading, perform, callsUntil, onTransport]
    rw [none, List.append_nil]
    exact .single (.aside ⟨s, history⟩ (act s.line.transport) s.context s.countdown)

theorem run_path (s : Session T) (operations : List (Operation T)) (history : List Event) :
    Path ⟨s, history⟩ ⟨(s.run operations).2, history ++ s.history operations⟩ := by
  induction operations generalizing s history with
  | nil => rw [Session.history, List.append_nil]; exact .refl
  | cons operation operations ih =>
    rw [Session.history, ← List.append_assoc]
    exact (perform_path s operation history).trans (ih _ _)

end Session

end BrailleDisplay
