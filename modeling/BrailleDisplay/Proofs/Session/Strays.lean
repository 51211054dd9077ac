import BrailleDisplay.Proofs.Session.Opened
import BrailleDisplay.Proofs.Session.Unseen
import BrailleDisplay.Transport.Script

/-!
# Stray bytes

A byte that is no key event ends the press of a routing or status key and does nothing else. What a
byte gives does not depend on such a press, so bytes that are no key events can be left out without
any other byte being decoded differently. A session treats a byte that means nothing in its state
likewise: it reads on, and at most its keyboard has changed.
-/
namespace BrailleDisplay

/-- A byte that was decoded in an input context, and what it turned out to be. -/
structure Decoding where
  context : InputContext
  byte : UInt8
  keystroke : Keystroke
  deriving Repr, DecidableEq

namespace Decoding

/-- What was decoded. -/
def input (decoding : Decoding) : InputContext × UInt8 := (decoding.context, decoding.byte)

/-- The byte was a key event. -/
def isKey (decoding : Decoding) : Bool := decoding.keystroke != .unrecognized

end Decoding

/-- The last byte, if there is one, was a key event. -/
def EndsInKey (decodings : List Decoding) : Prop := ∀ last ∈ decodings.getLast?, last.isKey = true

theorem EndsInKey.tail {first : Decoding} {decodings : List Decoding}
    (h : EndsInKey (first :: decodings)) : EndsInKey decodings := by
  intro last inside
  refine h last ?_
  rw [List.getLast?_cons, Option.mem_def.mp inside]
  rfl

namespace Keyboard

/-- Decodes bytes one after the other, each in its own input context. -/
def transcript (model : Model) (keyboard : Keyboard) : List (InputContext × UInt8) → List Decoding
  | [] => []
  | (context, byte) :: inputs =>
    let (keystroke, next) := keyboard.decode model context byte
    ⟨context, byte, keystroke⟩ :: next.transcript model inputs

/-- The keyboard after bytes were decoded one after the other. -/
def afterAll (model : Model) (keyboard : Keyboard) (inputs : List (InputContext × UInt8)) :
    Keyboard :=
  inputs.foldl (fun keyboard (context, byte) => (keyboard.decode model context byte).2) keyboard

/-- Keyboards agree but for a press of a routing or status key. -/
theorem endPress_inj {keyboard other : Keyboard} : other.endPress = keyboard.endPress ↔
    other.mode = keyboard.mode ∧ other.held.front = keyboard.held.front ∧
      other.pending = keyboard.pending := by
  simp only [endPress, Keyboard.mk.injEq, Chord.mk.injEq, and_true]
  constructor
  · rintro ⟨front, pending, mode⟩
    exact ⟨mode, front, pending⟩
  · rintro ⟨mode, front, pending⟩
    exact ⟨front, pending, mode⟩

variable {model : Model} {keyset : Keyset} (panel : model.panel = .chords keyset)
  {keyboard other : Keyboard}
include panel

/-- What a byte does is the same whether or not a press has ended before. -/
theorem decode_endPress (context : InputContext) (byte : UInt8) :
    keyboard.endPress.decode model context byte = keyboard.decode model context byte := by
  simp only [decode, panel]
  rfl

theorem decode_congr (same : other.endPress = keyboard.endPress) (context : InputContext)
    (byte : UInt8) : other.decode model context byte = keyboard.decode model context byte := by
  rw [← decode_endPress panel, same, decode_endPress panel]

/-- On a display with separate keys, a byte that is no key event ends the last press. -/
theorem endPress_of_stray {context : InputContext} {byte : UInt8}
    (stray : (keyboard.decode model context byte).1 = .unrecognized) :
    (keyboard.decode model context byte).2 = keyboard.endPress := by
  rw [← decode_endPress panel] at stray ⊢
  rcases decode_stray stray with kept | ended
  · exact kept
  · exact ended

/-- Bytes that are no key events can be left out: the others are decoded as before. -/
theorem transcript_pruned {inputs : List (InputContext × UInt8)} {kept : List Decoding}
    (same : other.endPress = keyboard.endPress)
    (sub : kept.Sublist (keyboard.transcript model inputs))
    (keys : kept.filter Decoding.isKey = (keyboard.transcript model inputs).filter Decoding.isKey) :
    other.transcript model (kept.map Decoding.input) = kept ∧
      (other.afterAll model (kept.map Decoding.input)).endPress =
        (keyboard.afterAll model inputs).endPress ∧
      (EndsInKey (keyboard.transcript model inputs) → (inputs = [] → other = keyboard) →
        other.afterAll model (kept.map Decoding.input) = keyboard.afterAll model inputs) := by
  induction inputs generalizing keyboard other kept with
  | nil =>
    obtain rfl := List.sublist_nil.mp sub
    exact ⟨rfl, same, fun _ start => start rfl⟩
  | cons input inputs ih =>
    obtain ⟨context, byte⟩ := input
    cases decoded : keyboard.decode model context byte with
    | mk keystroke next =>
      simp only [transcript, decoded] at sub keys ⊢
      cases sub with
      | cons _ sub =>
        have unkeyed : (⟨context, byte, keystroke⟩ : Decoding).isKey = false := by
          refine Bool.eq_false_iff.mpr fun key => ?_
          have fewer := (sub.filter Decoding.isKey).length_le
          rw [keys, List.filter_cons_of_pos key, List.length_cons] at fewer
          omega
        have stray : keystroke = .unrecognized := by simpa [Decoding.isKey] using unkeyed
        have ended : next = keyboard.endPress := by
          have ended := endPress_of_stray panel (congrArg Prod.fst decoded |>.trans stray)
          rwa [decoded] at ended
        have still : other.endPress = next.endPress := by rw [same, ended]; rfl
        rw [List.filter_cons_of_neg (by simp [unkeyed])] at keys
        obtain ⟨results, traces, whole⟩ := ih still sub keys
        have after : keyboard.afterAll model ((context, byte) :: inputs) =
            next.afterAll model inputs := by simp [afterAll, decoded]
        rw [after]
        refine ⟨results, traces, fun last _ => whole last.tail ?_⟩
        rintro rfl
        exact absurd (last _ rfl) (Bool.eq_false_iff.mp unkeyed)
      | @cons_cons kept _ _ sub =>
        have decoded' := (decode_congr panel same context byte).trans decoded
        have keys : kept.filter Decoding.isKey =
            (next.transcript model inputs).filter Decoding.isKey := by
          rw [List.filter_cons, List.filter_cons] at keys
          split_ifs at keys
          · exact (List.cons.inj keys).2
          · exact keys
        obtain ⟨results, traces, whole⟩ := ih rfl sub keys
        refine ⟨?_, ?_, fun last _ => ?_⟩
        · simp [Decoding.input, transcript, decoded', results]
        · simpa [afterAll, Decoding.input, decoded, decoded'] using traces
        · simpa [afterAll, Decoding.input, decoded, decoded'] using whole last.tail fun _ => rfl

end Keyboard

namespace Session

variable {T : Type}

/-- The keyboard has lost the routing or status key of the last event, or nothing. -/
def EndsPress (before after : Keyboard) : Prop := after = before ∨ after = before.endPress

/-- A byte that means nothing in the state of the link may end a press and does nothing else. -/
theorem hearInState_unexpected {s : Session T} {byte : UInt8}
    (stray : (s.hearInState byte).1 = .unexpected) :
    ∃ keyboard, (s.hearInState byte).2 = { s with keyboard } ∧ EndsPress s.keyboard keyboard := by
  cases heard : s.hearInState byte with
  | mk reaction t =>
    rw [heard] at stray
    cases treats_of_hearInState heard with
    | ignored => exact ⟨s.keyboard, rfl, .inl rfl⟩
    | identified | acknowledged | acknowledgedMore => cases stray
    | keyed =>
      have unkeyed (command : Option Command) : (s.hearKey byte).1 ≠ .key command := by
        intro key
        cases key.symm.trans stray
      exact ⟨_, rfl, Keyboard.decode_stray (decode_of_unkeyed unkeyed)⟩

variable [Transport T]

theorem hear_unexpected {s : Session T} {byte : UInt8} (stray : (s.hear byte).1 = .unexpected) :
    ∃ line keyboard, (s.hear byte).2 = { s with line, keyboard } ∧
      EndsPress s.keyboard keyboard := by
  unfold hear at stray ⊢
  split_ifs at stray ⊢
  · obtain ⟨more, transport, awaited⟩ := s.awaitMore_eq
    rw [awaited] at stray ⊢
    cases more with
    | true =>
      obtain ⟨keyboard, after, ends⟩ := hearInState_unexpected stray
      exact ⟨_, keyboard, after, ends⟩
    | false => cases stray
  · obtain ⟨keyboard, after, ends⟩ := hearInState_unexpected stray
    exact ⟨s.line, keyboard, after, ends⟩

/-- Stray bytes are transparent. On a display with separate keys, whatever its keyboard has been
through, any bytes that are no key events can be left out: the others are decoded as before, and the
input mode, the front keys held and the pending chord end up the same, as does the whole
keyboard if the last byte is a key event. All that such a byte does is to end the press of a
routing or status key. A byte that means nothing to a session leaves all of it as it was but for
such a press; a poll that reads one reads on, without writing and without a command. -/
theorem stray_bytes_are_transparent {model : Model} {keyset : Keyset}
    (panel : model.panel = .chords keyset) :
    (∀ (keyboard : Keyboard) (inputs : List (InputContext × UInt8)) (kept : List Decoding),
      kept.Sublist (keyboard.transcript model inputs) →
      kept.filter Decoding.isKey = (keyboard.transcript model inputs).filter Decoding.isKey →
      let full := keyboard.afterAll model inputs
      let pruned := keyboard.afterAll model (kept.map Decoding.input)
      keyboard.transcript model (kept.map Decoding.input) = kept ∧
      pruned.mode = full.mode ∧ pruned.held.front = full.held.front ∧
      pruned.pending = full.pending ∧
      (∀ last ∈ (keyboard.transcript model inputs).getLast?, last.isKey = true → pruned = full)) ∧
    (∀ (keyboard : Keyboard) context byte,
      (keyboard.decode model context byte).1 = .unrecognized →
      (keyboard.decode model context byte).2 =
        { keyboard with held := { keyboard.held with column := none, status := none } }) ∧
    (∀ (s : Session T) byte, (s.hearInState byte).1 = .unexpected →
      ∃ keyboard, (s.hearInState byte).2 = { s with keyboard } ∧
        EndsPress s.keyboard keyboard) ∧
    ∀ (s rest : Session T) byte heard, s.readByte = (.ok (some byte), rest) →
      (rest.hear byte).1 = .unexpected →
      s.drain heard = (rest.hear byte).2.drain true ∧ s.Listens (rest.hear byte).2 ∧
      ∃ line keyboard, (rest.hear byte).2 = { s with line, keyboard } ∧
        EndsPress s.keyboard keyboard := by
  refine ⟨?_, ?_, fun _ _ => hearInState_unexpected, ?_⟩
  · intro keyboard inputs kept sub keys full pruned
    obtain ⟨results, traces, whole⟩ := Keyboard.transcript_pruned panel rfl sub keys
    obtain ⟨mode, front, pending⟩ := Keyboard.endPress_inj.mp traces
    refine ⟨results, mode, front, pending, fun last inside key => ?_⟩
    refine whole ?_ fun _ => rfl
    intro other same
    rwa [Option.mem_unique same inside]
  · intro keyboard context byte stray
    exact Keyboard.endPress_of_stray panel stray
  · intro s rest byte heard read stray
    refine ⟨?_, listens_heard read, ?_⟩
    · rw [drain_eq, read]
      simp only [stray]
    · obtain ⟨transport, rfl⟩ := readByte_eq read
      obtain ⟨line, keyboard, after, ends⟩ := hear_unexpected stray
      exact ⟨line, keyboard, after, ends⟩

/-- Three stray bytes are mixed with keys, and two of them are left out. In a session, one of them
comes after a routing key was pressed with a front key held. -/
theorem stray_bytes_are_transparent_mixed : ∃ opened : Session ScriptedTransport,
    connect ⟨{ replies := [[0xFE, 0xFE, 0x89]] }, []⟩ {} = .ok opened ∧
    let keyboard : Keyboard := { held := { front := Modular.b1, column := some 7 } }
    let inputs : List (InputContext × UInt8) :=
      [(.normal, 0x50), (.normal, 0x04), (.menu, 0x51), (.normal, 0x52), (.normal, 0x84)]
    let kept : List Decoding := [⟨.normal, 0x04, .command .noop⟩, ⟨.normal, 0x52, .unrecognized⟩,
      ⟨.normal, 0x84, .command (.perform .lineBegin)⟩]
    Model.modular40.panel = .chords .modular ∧
    keyboard.transcript Model.modular40 (kept.map Decoding.input) = kept ∧
    keyboard.afterAll Model.modular40 (kept.map Decoding.input) =
      keyboard.afterAll Model.modular40 inputs ∧
    let s := (opened.run [.device (·.receive [0x03, 0x27, 0x50]), .poll 5, .poll 5]).2
    let next := (s.readByte.2.hear 0x50).2
    s.keyboard.held.column = some 7 ∧ next.keyboard.held.column = none ∧
    s.drain false = next.drain true ∧ s.Listens next := by
  let keyboard : Keyboard := { held := { front := Modular.b1, column := some 7 } }
  let inputs : List (InputContext × UInt8) :=
    [(.normal, 0x50), (.normal, 0x04), (.menu, 0x51), (.normal, 0x52), (.normal, 0x84)]
  let kept : List Decoding := [⟨.normal, 0x04, .command .noop⟩, ⟨.normal, 0x52, .unrecognized⟩,
    ⟨.normal, 0x84, .command (.perform .lineBegin)⟩]
  let operations : List (Operation ScriptedTransport) :=
    [.device (·.receive [0x03, 0x27, 0x50]), .poll 5, .poll 5]
  obtain ⟨opened, connected⟩ := exists_connect (T := ScriptedTransport)
    ⟨{ replies := [[0xFE, 0xFE, 0x89]] }, []⟩ {} (by decide +kernel)
  have panel : Model.modular40.panel = .chords .modular := rfl
  have transparent := stray_bytes_are_transparent (T := ScriptedTransport) panel
  obtain ⟨same, _, _, _, whole⟩ := transparent.1 keyboard inputs kept (by decide) (by decide)
  have ended := whole ⟨.normal, 0x84, .command (.perform .lineBegin)⟩ (by decide) (by decide)
  have read : decide ((opened.run operations).2.readByte.1 = .ok (some 0x50)) = true :=
    of_connect connected (fun s => decide ((s.run operations).2.readByte.1 = .ok (some 0x50)))
      (by decide +kernel)
  have stray : ((opened.run operations).2.readByte.2.hear 0x50).1 = .unexpected :=
    of_connect connected (fun s => ((s.run operations).2.readByte.2.hear 0x50).1)
      (by decide +kernel)
  have held : (opened.run operations).2.keyboard.held.column = some 7 :=
    of_connect connected (fun s => (s.run operations).2.keyboard.held.column) (by decide +kernel)
  have unheld : ((opened.run operations).2.readByte.2.hear 0x50).2.keyboard.held.column = none :=
    of_connect connected
      (fun s => ((s.run operations).2.readByte.2.hear 0x50).2.keyboard.held.column)
      (by decide +kernel)
  obtain ⟨drained, listens, _⟩ := transparent.2.2.2 (opened.run operations).2 _ 0x50 false
    (Prod.ext (of_decide_eq_true read) rfl) stray
  exact ⟨opened, connected, panel, same, ended, held, unheld, drained, listens⟩

end Session

end BrailleDisplay
