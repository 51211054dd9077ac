import BrailleDisplay.Proofs.Session.Path

/-!
# Reading byte by byte

What `Session.drain` does, as a relation that also names the calls it makes. `Hearing` is one byte:
it is read, and if it could be a fault report, more bytes are waited for. `Reading` is one byte
after the other, up to a key event or a read that hands nothing over. Statements about what happens
inside a poll are proved by induction on it.
-/
namespace BrailleDisplay.Session

variable {T : Type}

/-- The session after one byte was read. -/
def readOne (s : Session T) (byte : UInt8) (transport : T) : Session T :=
  s.after (.read 1 s.config.readTimeout (some [byte])) transport

/-- The call that read one byte. -/
def readEntry (s : Session T) (byte : UInt8) : Entry :=
  ⟨s.link.state, .read 1 s.config.readTimeout (some [byte])⟩

/-- The call that waited for more bytes. -/
def awaitEntry (s : Session T) (more : Bool) : Entry :=
  ⟨s.link.state, .await s.config.disconnectGrace more⟩

/-- A byte is read and dealt with. -/
inductive Hearing (s : Session T) (byte : UInt8) : Reaction → Session T → List Entry → Prop where
  /-- Nothing follows a fault report. -/
  | confirmed (first second : T) (fault : byte = Signal.fault) (up : s.link.state ≠ .off) :
      Hearing s byte .handled
        (((s.readOne byte first).after (.await s.config.disconnectGrace false) second).apply
          .disconnected) [s.readEntry byte, s.awaitEntry false]
  /-- Something follows, so this was no fault report. -/
  | cancelled (first second : T) (fault : byte = Signal.fault) (up : s.link.state ≠ .off)
      {reaction : Reaction} {t : Session T}
      (heard : ((s.readOne byte first).after (.await s.config.disconnectGrace true)
        second).hearInState byte = (reaction, t)) :
      Hearing s byte reaction t [s.readEntry byte, s.awaitEntry true]
  | announced (transport : T) (announce : byte = Signal.announce) :
      Hearing s byte .handled ((s.readOne byte transport).apply .announced) [s.readEntry byte]
  | plain (transport : T) (unannounced : byte ≠ Signal.announce)
      (unawaited : byte = Signal.fault → s.link.state = .off) {reaction : Reaction} {t : Session T}
      (heard : (s.readOne byte transport).hearInState byte = (reaction, t)) :
      Hearing s byte reaction t [s.readEntry byte]

/-- Bytes are read up to a key event, or until nothing is handed over. -/
inductive Reading : Session T → Bool → Drained → Session T → List Entry → Prop where
  | failed (s : Session T) (heard : Bool) (transport : T) :
      Reading s heard (.dry heard)
        ((s.after (.read 1 s.config.readTimeout none) transport).apply .faulted)
        [⟨s.link.state, .read 1 s.config.readTimeout none⟩]
  | nothing (s : Session T) (heard : Bool) (transport : T) :
      Reading s heard (.dry heard) (s.after (.read 1 s.config.readTimeout (some [])) transport)
        [⟨s.link.state, .read 1 s.config.readTimeout (some [])⟩]
  | key {s t : Session T} (heard : Bool) {byte : UInt8} {command : Option Command}
      {calls : List Entry} (hearing : s.Hearing byte (.key command) t calls) :
      Reading s heard (.key command) t calls
  | other {s t u : Session T} (heard : Bool) {byte : UInt8} {reaction : Reaction}
      {outcome : Drained} {calls more : List Entry} (hearing : s.Hearing byte reaction t calls)
      (unkeyed : ∀ command, reaction ≠ .key command) (later : Reading t true outcome u more) :
      Reading s heard outcome u (calls ++ more)

/-- The calls are the ones that the journal shows. -/
theorem Hearing.journal {s t : Session T} {byte : UInt8} {reaction : Reaction}
    {calls : List Entry} (h : s.Hearing byte reaction t calls) :
    t.line.journal = s.line.journal ++ calls := by
  have heard {u : Session T} (same : u.hearInState byte = (reaction, t)) :
      t.line.journal = u.line.journal := by
    rw [← hearInState_journal u byte, same]
  cases h with
  | confirmed first second => exact List.append_assoc _ [_] [_]
  | cancelled first second _ _ same => exact (heard same).trans (List.append_assoc _ [_] [_])
  | announced transport => rfl
  | plain transport _ _ same => exact heard same

theorem Hearing.heardIn_eq {s t : Session T} {byte : UInt8} {reaction : Reaction}
    {calls : List Entry} (h : s.Hearing byte reaction t calls) :
    heardIn (calls.map .called) = [(s.link.state, byte)] := by
  cases h <;> rfl

theorem Reading.journal {s t : Session T} {heard : Bool} {outcome : Drained}
    {calls : List Entry} (h : s.Reading heard outcome t calls) :
    t.line.journal = s.line.journal ++ calls := by
  induction h with
  | failed | nothing => rfl
  | key heard hearing => exact hearing.journal
  | other heard hearing unkeyed later ih => rw [ih, hearing.journal, List.append_assoc]

variable [Transport T]

/-- Draining by what the first read gives. -/
theorem drain_eq (s : Session T) (heard : Bool) :
    s.drain heard = match s.readByte with
      | (.error _, rest) => (.dry heard, rest.apply .faulted)
      | (.ok none, rest) => (.dry heard, rest)
      | (.ok (some byte), rest) =>
        match (rest.hear byte).1 with
        | .key command => (.key command, (rest.hear byte).2)
        | .handled | .unexpected => (rest.hear byte).2.drain true := by
  rw [drain]
  split
  · next fault rest read => rw [read]
  · next rest read => rw [read]
  · next byte rest read =>
    cases key : (rest.hear byte).1 <;> simp only [read, key]

theorem hearing_hear {s rest : Session T} {byte : UInt8}
    (h : s.readByte = (.ok (some byte), rest)) :
    ∃ calls, s.Hearing byte (rest.hear byte).1 (rest.hear byte).2 calls := by
  obtain ⟨transport, rfl⟩ := readByte_eq h
  obtain ⟨more, second, awaited⟩ := (s.readOne byte transport).awaitMore_eq
  change ∃ calls, s.Hearing byte ((s.readOne byte transport).hear byte).1
    ((s.readOne byte transport).hear byte).2 calls
  unfold hear
  split
  · next act =>
    rw [awaited]
    cases more with
    | true => exact ⟨_, .cancelled (s := s) transport second act.1 act.2 rfl⟩
    | false => exact ⟨_, .confirmed (s := s) transport second act.1 act.2⟩
  · next act =>
    split
    · next same => exact ⟨_, .announced (s := s) transport same⟩
    · next plain =>
      have unawaited (fault : byte = Signal.fault) : s.link.state = .off :=
        Decidable.byContradiction fun up => act ⟨fault, up⟩
      exact ⟨_, .plain (s := s) transport plain unawaited rfl⟩

theorem exists_reading (s : Session T) (heard : Bool) :
    ∃ calls, s.Reading heard (s.drain heard).1 (s.drain heard).2 calls := by
  fun_induction drain s heard with
  | case1 s heard fault rest h =>
    obtain ⟨transport, rfl⟩ := readByte_eq h
    exact ⟨_, .failed s heard transport⟩
  | case2 s heard rest h =>
    obtain ⟨transport, rfl⟩ := readByte_eq h
    exact ⟨_, .nothing s heard transport⟩
  | case3 s heard byte rest h command key =>
    obtain ⟨calls, hearing⟩ := hearing_hear h
    exact ⟨calls, .key heard (key ▸ hearing)⟩
  | case4 s heard byte rest h handled ih =>
    obtain ⟨calls, hearing⟩ := hearing_hear h
    obtain ⟨more, later⟩ := ih
    exact ⟨_, .other heard hearing (by simp [handled]) later⟩
  | case5 s heard byte rest h unexpected ih =>
    obtain ⟨calls, hearing⟩ := hearing_hear h
    obtain ⟨more, later⟩ := ih
    exact ⟨_, .other heard hearing (by simp [unexpected]) later⟩

/-- Draining is reading, with the calls that it adds to the journal. -/
theorem reading_drain (s : Session T) (heard : Bool) :
    s.Reading heard (s.drain heard).1 (s.drain heard).2 (s.callsUntil (s.drain heard).2) := by
  obtain ⟨calls, reading⟩ := s.exists_reading heard
  rwa [callsUntil, reading.journal, List.drop_left]

end BrailleDisplay.Session
