import BrailleDisplay.Proofs.Session.Forgetting
import BrailleDisplay.Proofs.Session.Keys
import BrailleDisplay.Proofs.Session.Loss

/-!
# Announcing again recovers the link

Whatever state a session is in, announcements followed by the identifier bring its display back. One
poll reads them all, forgets the keys and hands over the frame of the image. A byte other than the
identifier leaves the session waiting for it, with its keys and its image as they were.
-/
namespace BrailleDisplay

/-- Reading byte by byte hands over these bytes and then nothing, after which the transport is the
last one given. -/
inductive Transport.Yields {T : Type} [Transport T] (timeout : UInt32) :
    T → List UInt8 → T → Prop where
  | nil {t quiet : T} (empty : Transport.read t 1 timeout = (.ok [], quiet)) :
      Yields timeout t [] quiet
  | cons {t rest quiet : T} {byte : UInt8} {bytes : List UInt8}
      (read : Transport.read t 1 timeout = (.ok [byte], rest))
      (later : Yields timeout rest bytes quiet) : Yields timeout t (byte :: bytes) quiet

namespace Session

variable {T : Type}

/-- The session after calls on its line, which leave the given transport. -/
def through (s : Session T) (calls : List Entry) (transport : T) : Session T :=
  { s with line := ⟨transport, s.line.journal ++ calls⟩ }

theorem through_through (s : Session T) (calls more : List Entry) (first second : T) :
    (s.through calls first).through more second = s.through (calls ++ more) second := by
  simp [through]

variable [Transport T]

open Transport (Yields)

theorem readByte_one {s : Session T} {byte : UInt8} {rest : T}
    (read : Transport.read s.line.transport 1 s.config.readTimeout = (.ok [byte], rest)) :
    s.readByte = (.ok (some byte), s.through [s.readEntry byte] rest) := by
  simp only [readByte, Line.readByte, Line.read, read]
  rfl

/-- A byte that is not a key event is taken, and reading goes on. -/
theorem drain_handled {s t : Session T} {byte : UInt8} {rest : T} {reaction : Reaction}
    (read : Transport.read s.line.transport 1 s.config.readTimeout = (.ok [byte], rest))
    (heard : (s.through [s.readEntry byte] rest).hear byte = (reaction, t))
    (unkeyed : ∀ command, reaction ≠ .key command) (before : Bool) :
    s.drain before = t.drain true := by
  rw [drain_eq, readByte_one read]
  dsimp only
  rw [heard]
  cases reaction with
  | key command => exact absurd rfl (unkeyed command)
  | handled | unexpected => rfl

theorem hear_announce (s : Session T) :
    s.hear Signal.announce = (.handled, s.apply .announced) :=
  rfl

/-- Announcements leave the session waiting for the identifier. -/
theorem drain_announced {s : Session T} {n : Nat} {bytes : List UInt8} {quiet : T}
    (yields : Yields s.config.readTimeout s.line.transport
      (List.replicate (n + 1) Signal.announce ++ bytes) quiet) (before : Bool) :
    ∃ calls link transport,
      s.drain before = ({ s with link }.through calls transport).drain true ∧
      bytesIn (calls.map .called) = List.replicate (n + 1) Signal.announce ∧
      link.state = .identifying ∧ Yields s.config.readTimeout transport bytes quiet := by
  induction n generalizing s before with
  | zero =>
    cases yields with
    | cons read later =>
      refine ⟨_, s.link.apply .announced, _, drain_handled read (hear_announce _) (by simp) before,
        rfl, by simp, later⟩
  | succ n ih =>
    cases yields with
    | @cons _ rest _ _ _ read later =>
      obtain ⟨calls, link, transport, drained, heard, identifying, later⟩ :=
        ih (s := (s.through [s.readEntry Signal.announce] rest).apply .announced) later true
      refine ⟨s.readEntry Signal.announce :: calls, link, transport, ?_, ?_, identifying, later⟩
      · rw [drain_handled read (hear_announce _) (by simp) before, drained]
        simp [through, apply]
      · rw [List.map_cons, List.replicate_succ, ← heard]
        rfl

/-- The last byte to be read is heard, and then nothing follows. -/
theorem drain_last {s t : Session T} {byte : UInt8} {reaction : Reaction} {quiet : T}
    (yields : Yields s.config.readTimeout s.line.transport [byte] quiet)
    (heard : ∀ rest, (s.through [s.readEntry byte] rest).hear byte =
      (reaction, t.through [s.readEntry byte] rest))
    (unkeyed : ∀ command, reaction ≠ .key command) (config : t.config = s.config)
    (before : Bool) :
    s.drain before = (.dry true, t.through
      [s.readEntry byte, ⟨t.link.state, .read 1 s.config.readTimeout (some [])⟩] quiet) := by
  cases yields with
  | @cons _ rest _ _ _ read later =>
    cases later with
    | nil empty =>
      rw [drain_handled read (heard rest) unkeyed, ← config]
      rw [← config] at empty
      rw [drain_nothing empty]
      simp [through, after, Line.after]

/-- The identifier after announcements makes the session ready with an image to be sent. -/
theorem drain_identified {s : Session T} (supported : s.model ∈ Model.registry) {n : Nat}
    {quiet : T} (yields : Yields s.config.readTimeout s.line.transport
      (List.replicate (n + 1) Signal.announce ++ [s.model.identifier]) quiet) (before : Bool) :
    ∃ calls, s.drain before = (.dry true, { s with
        link := { state := .ready }, keyboard := s.keyboard.clear,
        image := s.image.markDirty }.through calls quiet) ∧
      bytesIn (calls.map .called) =
        List.replicate (n + 1) Signal.announce ++ [s.model.identifier] := by
  obtain ⟨calls, link, transport, drained, heard, identifying, later⟩ :=
    drain_announced yields before
  let t : Session T := { s with link }.through calls transport
  let ready : Session T := { s with
    link := { state := .ready }, keyboard := s.keyboard.clear, image := s.image.markDirty }
  have last := drain_last (s := t) (t := ready.through calls transport) later
    (fun _ => hear_identifier supported identifying) (by simp) rfl true
  rw [drained, last, through_through]
  refine ⟨_, rfl, ?_⟩
  rw [List.map_append, bytesIn_append, heard]
  rfl

/-- Another byte after announcements leaves the session waiting for the identifier. -/
theorem drain_unidentified {s : Session T} {n : Nat} {byte : UInt8}
    (other : byte ≠ s.model.identifier) (announce : byte ≠ Signal.announce)
    (fault : byte ≠ Signal.fault) {quiet : T}
    (yields : Yields s.config.readTimeout s.line.transport
      (List.replicate (n + 1) Signal.announce ++ [byte]) quiet) (before : Bool) :
    ∃ calls link, s.drain before = (.dry true, { s with link }.through calls quiet) ∧
      bytesIn (calls.map .called) = List.replicate (n + 1) Signal.announce ++ [byte] ∧
      link.state = .identifying := by
  obtain ⟨calls, link, transport, drained, heard, identifying, later⟩ :=
    drain_announced yields before
  let t : Session T := { s with link }.through calls transport
  have ignored (rest : T) : (t.through [t.readEntry byte] rest).hear byte =
      (.unexpected, t.through [t.readEntry byte] rest) := by
    simp [hear, hearInState, through, t, identifying, other, announce, fault]
  have last := drain_last (s := t) later ignored (by simp) rfl true
  rw [drained, last, through_through]
  refine ⟨_, link, rfl, ?_, identifying⟩
  rw [List.map_append, bytesIn_append, heard]
  rfl

/-- A changed image goes out in full on a link that is ready. -/
theorem flush_whole {s : Session T} (fits : s.Fits) (ready : s.link.state = .ready)
    (dirty : s.image.dirty = true)
    (takes : (Transport.write s.line.transport s.frameBytes).1 = .ok s.frameBytes.length) :
    s.flush = { s with image := s.image.markClean, link := { state := .writing } }.through
      [⟨.ready, .write s.frameBytes (some s.frameBytes.length)⟩]
      (Transport.write s.line.transport s.frameBytes).2 := by
  obtain ⟨frame, built⟩ := fits.frame_built
  have bytes : frame.bytes = s.frameBytes := Envelope.bytes_of_frame? built
  have sent : s.send s.frameBytes =
      (true, s.after (.write s.frameBytes (some s.frameBytes.length))
        (Transport.write s.line.transport s.frameBytes).2) := by
    simp [send, Line.send, takes, Except.toOption, after]
  have link : s.link.apply .frameSent = { state := .writing } := by
    rw [Link.apply_frameSent (.inl ready)]
    simp [Link.enter, ready]
  rw [flush, if_pos ⟨dirty, by rw [ready]; rfl⟩, transmit, built]
  dsimp only
  rw [bytes, sent]
  simp [through, after, Line.after, apply, link, ready]

/-- What a poll calls is what reading calls and then what is left. -/
theorem events_poll_of_drain {s t : Session T} {elapsed : UInt32} {outcome : Drained}
    {calls more : List Entry} {quiet : T}
    (drained : (s.tick elapsed).drain false = (outcome, t.through calls quiet))
    (start : t.line.journal = s.line.journal)
    (polled : (s.poll elapsed).2.line.journal = s.line.journal ++ (calls ++ more)) :
    bytesIn (s.events (.poll elapsed)) = bytesIn (calls.map .called) ∧
      writtenIn (s.events (.poll elapsed)) = writtenIn (more.map .called) := by
  have reads : (s.tick elapsed).callsUntil (t.through calls quiet) = calls :=
    callsUntil_of_journal (congrArg (· ++ calls) start)
  have rest : (t.through calls quiet).callsUntil (s.poll elapsed).2 = more :=
    callsUntil_of_journal (by rw [polled, through, start, List.append_assoc])
  obtain ⟨heard, written⟩ := s.heardIn_poll elapsed
  rw [drained] at heard written
  rw [reads] at heard
  rw [rest] at written
  exact ⟨congrArg (List.map Prod.snd) heard, written⟩

/-- What a poll does that reads the identifier after announcements. -/
theorem poll_identified {s : Session T} (fits : s.Fits) (elapsed : UInt32) {n : Nat} {quiet : T}
    (yields : Yields s.config.readTimeout s.line.transport
      (List.replicate (n + 1) Signal.announce ++ [s.model.identifier]) quiet)
    (takes : (Transport.write quiet s.frameBytes).1 = .ok s.frameBytes.length) :
    ∃ calls countdown, s.poll elapsed = (none, { s with
        link := { state := .writing }, keyboard := s.keyboard.clear, image := s.image.markClean,
        countdown }.through calls (Transport.write quiet s.frameBytes).2) ∧
      bytesIn (s.events (.poll elapsed)) =
        List.replicate (n + 1) Signal.announce ++ [s.model.identifier] ∧
      writtenIn (s.events (.poll elapsed)) = [s.frameBytes] := by
  obtain ⟨calls, drained, heard⟩ :=
    drain_identified (s := s.tick elapsed) fits.supported yields false
  let t : Session T := { s with
    link := { state := .writing }, keyboard := s.keyboard.clear, image := s.image.markClean }
  let sent : Entry := ⟨.ready, .write s.frameBytes (some s.frameBytes.length)⟩
  let taken : T := (Transport.write quiet s.frameBytes).2
  have flushed := (flush_whole (s := { s with
      link := { state := .ready }, keyboard := s.keyboard.clear,
      image := s.image.markDirty }.through calls quiet)
    (fits.of_regions rfl fun _ => rfl) rfl rfl takes).trans
      (through_through t calls [sent] quiet taken)
  obtain ⟨countdown, released⟩ :=
    autorepeat_released (s := t.through (calls ++ [sent]) taken) rfl
  have polled : s.poll elapsed =
      (none, { t with countdown }.through (calls ++ [sent]) taken) := by
    rw [poll_eq, drained, settle]
    exact (congrArg autorepeat flushed).trans released
  have journal : (s.poll elapsed).2.line.journal = s.line.journal ++ (calls ++ [sent]) := by
    rw [polled]
    rfl
  obtain ⟨hears, writes⟩ := events_poll_of_drain drained rfl journal
  exact ⟨_, countdown, polled, hears.trans heard, writes⟩

/-- What a poll does that reads another byte after announcements. -/
theorem poll_unidentified {s : Session T} (elapsed : UInt32) {n : Nat} {byte : UInt8}
    (other : byte ≠ s.model.identifier) (announce : byte ≠ Signal.announce)
    (fault : byte ≠ Signal.fault) {quiet : T}
    (yields : Yields s.config.readTimeout s.line.transport
      (List.replicate (n + 1) Signal.announce ++ [byte]) quiet) :
    let next := (s.poll elapsed).2
    (s.poll elapsed).1 = none ∧
      bytesIn (s.events (.poll elapsed)) = List.replicate (n + 1) Signal.announce ++ [byte] ∧
      writtenIn (s.events (.poll elapsed)) = [] ∧ next.line.transport = quiet ∧
      next.link.state = .identifying ∧ next.keyboard = s.keyboard ∧ next.image = s.image := by
  obtain ⟨calls, link, drained, heard, identifying⟩ :=
    drain_unidentified (s := s.tick elapsed) other announce fault yields false
  let t : Session T := { s with link }.through calls quiet
  have waiting : t.flush = t := flush_of_ne (by simp [through, t, identifying])
  have apart : t.link.state.isConnected = false := by
    simp [through, t, identifying, LinkState.isConnected]
  obtain ⟨silent, keyboard⟩ := autorepeat_apart apart
  have polled : s.poll elapsed = t.autorepeat := by
    rw [poll_eq, drained, settle]
    exact congrArg autorepeat waiting
  have journal : (s.poll elapsed).2.line.journal = s.line.journal ++ (calls ++ []) := by
    rw [polled, autorepeat_line, List.append_nil]
    rfl
  obtain ⟨hears, writes⟩ := events_poll_of_drain drained rfl journal
  dsimp only
  rw [polled, autorepeat_line, autorepeat_link, autorepeat_image]
  exact ⟨silent, hears.trans heard, writes, rfl, identifying, keyboard, rfl⟩

/-- Announcing again recovers the link. From whatever state, one poll reads announcements and a
last byte. If that is the identifier, and the transport takes the frame of the image in full, then
this frame is all that is written, and the session waits for its acknowledgement without a key held.
If it is another byte that is no signal, nothing is written, and the session waits for the
identifier with its keys and its image untouched. In either case the poll answers nothing. -/
theorem announcing_recovers_link {line : Line T} {config : Config} {opened : Session T}
    (h : connect line config = .ok opened) (operations : List (Operation T)) (elapsed : UInt32)
    {n : Nat} (announced : 1 ≤ n) {byte : UInt8} {quiet : T}
    (yields : Yields config.readTimeout (opened.run operations).2.line.transport
      (List.replicate n Signal.announce ++ [byte]) quiet) :
    let s := (opened.run operations).2
    let next := (s.poll elapsed).2
    let events := s.events (.poll elapsed)
    (byte = s.model.identifier →
      (Transport.write quiet s.frameBytes).1 = .ok s.frameBytes.length →
      (s.poll elapsed).1 = none ∧ bytesIn events = List.replicate n Signal.announce ++ [byte] ∧
        writtenIn events = [s.frameBytes] ∧
        next.line.transport = (Transport.write quiet s.frameBytes).2 ∧
        next.link = { state := .writing, elapsed := 0, retries := 0 } ∧
        next.image = { s.image with dirty := false } ∧
        next.keyboard = { held := {}, pending := none, mode := s.keyboard.mode }) ∧
    (byte ≠ s.model.identifier → byte ≠ Signal.announce → byte ≠ Signal.fault →
      (s.poll elapsed).1 = none ∧ bytesIn events = List.replicate n Signal.announce ++ [byte] ∧
        writtenIn events = [] ∧ next.line.transport = quiet ∧ next.link.state = .identifying ∧
        next.keyboard = s.keyboard ∧ next.image = s.image) := by
  obtain ⟨_, same, _⟩ := connect_eq h
  have path := run_path opened operations []
  have fits := path.fits (fits_of_connect h)
  have timeout : (opened.run operations).2.config = config := path.config_eq.trans same
  obtain ⟨n, rfl⟩ := Nat.exists_eq_add_of_le' announced
  dsimp only at fits timeout
  generalize (opened.run operations).2 = s at fits timeout yields ⊢
  subst timeout
  constructor
  · rintro rfl takes
    obtain ⟨calls, countdown, polled, heard, written⟩ := poll_identified fits elapsed yields takes
    rw [polled]
    exact ⟨rfl, heard, written, rfl, rfl, rfl, rfl⟩
  · intro other announce fault
    exact poll_unidentified elapsed other announce fault yields

theorem yields_script (timeout : UInt32) (bytes : List UInt8) :
    Yields timeout ({ incoming := bytes } : ScriptedTransport) bytes {} := by
  induction bytes with
  | nil => exact .nil rfl
  | cons byte bytes ih => exact .cons rfl ih

/-- A front key is held, and status cells wait for a frame to be acknowledged, when the display
announces itself twice. -/
theorem announcing_recovers_link_writing : ∃ opened : Session ScriptedTransport,
    connect ⟨{ replies := [[0xFE, 0xFE, 0x80]] }, []⟩ {} = .ok opened ∧
    let s := (opened.run [.write .main (List.replicate 20 3), .device (·.receive [0x03]), .poll 1,
      .write .status [1, 2, 3, 4], .device (·.receive [0xFE, 0xFE, 0x80])]).2
    s.link.state = .writing ∧ s.image.dirty = true ∧ s.keyboard.pending.isSome = true ∧
      (s.poll 5).1 = none ∧ writtenIn (s.events (.poll 5)) = [s.frameBytes] ∧
      (s.poll 5).2.link = { state := .writing, elapsed := 0, retries := 0 } ∧
      (s.poll 5).2.keyboard = {} := by
  let operations : List (Operation ScriptedTransport) :=
    [.write .main (List.replicate 20 3), .device (·.receive [0x03]), .poll 1,
      .write .status [1, 2, 3, 4], .device (·.receive [0xFE, 0xFE, 0x80])]
  obtain ⟨opened, connected⟩ := exists_connect (T := ScriptedTransport)
    ⟨{ replies := [[0xFE, 0xFE, 0x80]] }, []⟩ {} (by decide +kernel)
  have before := of_decide_eq_true <| of_connect connected (fun s =>
    let t := (s.run operations).2
    decide (t.link.state = .writing ∧ t.image.dirty = true ∧ t.keyboard.pending.isSome = true ∧
      t.keyboard.mode = .commands ∧ t.model.identifier = 0x80 ∧
      t.line.transport = { incoming := [0xFE, 0xFE, 0x80] })) (by decide +kernel)
  obtain ⟨writing, dirty, pending, mode, identifier, waiting⟩ := before
  have yields : Yields ({} : Config).readTimeout (opened.run operations).2.line.transport
      (List.replicate 2 Signal.announce ++ [0x80]) {} := by
    rw [waiting]
    exact yields_script _ _
  obtain ⟨silent, _, written, _, link, _, keyboard⟩ :=
    (announcing_recovers_link connected operations 5 (by decide) yields).1 identifier.symm rfl
  exact ⟨opened, connected, writing, dirty, pending, silent, written, link, mode ▸ keyboard⟩

end Session

end BrailleDisplay
