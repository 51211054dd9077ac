import BrailleDisplay.Proofs.Key.Chord
import BrailleDisplay.Proofs.Key.Event
import BrailleDisplay.Proofs.Keyset.Mode
import BrailleDisplay.Proofs.Session.Isolation
import BrailleDisplay.Proofs.Session.Opened
import BrailleDisplay.Transport.Script

/-!
# Autorepeat

A chord that is held and gives a command is repeated after a delay and then at intervals, both
counted in polls. What carries the argument is `Config.Due`: a countdown says how many polls
there are to the next repetition on the schedule. As one that stands at zero runs out in the next
poll like one that stands at one, a setting of zero counts as one.
-/
namespace BrailleDisplay

namespace Config

/-- The chord is repeated in the poll with this number, counted from the press of its last key. -/
def RepeatsAt (config : Config) (number : Nat) : Prop :=
  ∃ repetitions, number =
    max config.repeatDelay.toNat 1 + repetitions * max config.repeatInterval.toNat 1

variable {config : Config} {number : Nat}

instance : Decidable (config.RepeatsAt number) :=
  decidable_of_iff
    (max config.repeatDelay.toNat 1 ≤ number ∧
      max config.repeatInterval.toNat 1 ∣ number - max config.repeatDelay.toNat 1) <| by
    constructor
    · rintro ⟨late, repetitions, same⟩
      exact ⟨repetitions, by rw [Nat.mul_comm]; omega⟩
    · rintro ⟨repetitions, rfl⟩
      exact ⟨by omega, repetitions, by rw [Nat.mul_comm]; omega⟩

theorem RepeatsAt.next (h : config.RepeatsAt number) :
    config.RepeatsAt (number + max config.repeatInterval.toNat 1) := by
  obtain ⟨repetitions, rfl⟩ := h
  exact ⟨repetitions + 1, by rw [Nat.add_mul, Nat.one_mul, Nat.add_assoc]⟩

/-- Nothing is repeated until the interval has passed. -/
theorem RepeatsAt.sparse (h : config.RepeatsAt number) {other : Nat} (later : number < other)
    (sooner : other < number + max config.repeatInterval.toNat 1) : ¬ config.RepeatsAt other := by
  obtain ⟨repetitions, rfl⟩ := h
  rintro ⟨others, rfl⟩
  have more : repetitions < others :=
    Nat.lt_of_mul_lt_mul_right (Nat.lt_of_add_lt_add_left later)
  have fewer : others < repetitions + 1 := by
    refine Nat.lt_of_mul_lt_mul_right (a := max config.repeatInterval.toNat 1) ?_
    rw [Nat.add_mul, Nat.one_mul]
    omega
  omega

/-- The countdown says when the next repetition is due after some polls. -/
structure Due (config : Config) (passed : Nat) (countdown : UInt8) : Prop where
  next : config.RepeatsAt (passed + max countdown.toNat 1)
  sparse {number : Nat} : passed < number → number < passed + max countdown.toNat 1 →
    ¬ config.RepeatsAt number

theorem due_delay (config : Config) : config.Due 0 config.repeatDelay where
  next := ⟨0, by omega⟩
  sparse := by
    rintro _ sooner later ⟨repetitions, rfl⟩
    omega

/-- While the countdown runs, nothing is due. -/
theorem Due.wait {passed : Nat} {countdown : UInt8} (h : config.Due passed countdown)
    (running : countDown countdown ≠ 0) :
    ¬ config.RepeatsAt (passed + 1) ∧ config.Due (passed + 1) (countDown countdown) := by
  have left : (countDown countdown).toNat ≠ 0 := fun zero => running (UInt8.toNat_inj.mp zero)
  rw [toNat_countDown] at left
  refine ⟨h.sparse (Nat.lt_succ_self passed) (by omega), ?_, ?_⟩
  · have same : passed + 1 + max (countDown countdown).toNat 1 =
        passed + max countdown.toNat 1 := by
      rw [toNat_countDown]
      omega
    rw [same]
    exact h.next
  · intro number later sooner
    rw [toNat_countDown] at sooner
    exact h.sparse (by omega) (by omega)

/-- When the countdown has run out, a repetition is due, and the next one after the interval. -/
theorem Due.repeated {passed : Nat} {countdown : UInt8} (h : config.Due passed countdown)
    (zero : countDown countdown = 0) :
    config.RepeatsAt (passed + 1) ∧ config.Due (passed + 1) config.repeatInterval := by
  have spent : (countDown countdown).toNat = 0 := congrArg UInt8.toNat zero
  rw [toNat_countDown] at spent
  have now : config.RepeatsAt (passed + 1) := by
    have same : passed + max countdown.toNat 1 = passed + 1 := by omega
    rw [← same]
    exact h.next
  exact ⟨now, now.next, now.sparse⟩

end Config

/-! ## A held chord -/

/-- The keyboard while a chord of front keys is held. Once used, its release gives nothing. -/
def Keyboard.holding (front : FrontKeys) (mode : InputMode) (used : Bool) : Keyboard where
  held := { front }
  pending := if used then none else some front
  mode

/-- A chord is held, and some polls have passed since the press of its last key. -/
structure Typing.Holding (config : Config) (keyset : Keyset) (front : FrontKeys) (mode : InputMode)
    (passed : Nat) (used : Bool) (typing : Typing) : Prop where
  configured : typing.config = config
  panel : typing.model.panel = .chords keyset
  keyboard : typing.keyboard = .holding front mode used
  due : config.Due passed typing.countdown

section

variable {config : Config} {keyset : Keyset} {front : FrontKeys} {mode : InputMode}
  {command : Command} {passed : Nat} {used : Bool}

theorem Keyboard.repeatHeld_holding {model : Model} (panel : model.panel = .chords keyset)
    (held : front ≠ 0) (means : (keyset.resolve { front } mode).1 = some command) :
    (holding front mode used).repeatHeld model = (some command, holding front mode true) := by
  have only : ({ front } : Chord).isFrontOnly = true := by simp [Chord.isFrontOnly, held]
  have resolved : keyset.resolve { front } mode = (some command, mode) :=
    Prod.ext means (Keyset.mode_of_resolve means)
  have keys : model.keyset? = some keyset := by rw [Model.keyset?, panel]
  simp [repeatHeld, keys, holding, only, resolved]

/-- Letting a front key go interprets the chord unless it was used. -/
theorem Keyboard.releaseFront_holding (means : (keyset.resolve { front } mode).1 = some command)
    (bit : UInt8) : (releaseFront keyset (holding front mode used) bit).1 =
      if used then .absorbed else .command command := by
  cases used with
  | true => rfl
  | false =>
    simp only [releaseFront, holding, Bool.false_eq_true, if_false, means]
    rfl

/-- A poll without a byte repeats the chord on schedule. -/
theorem Typing.Holding.autorepeat {typing : Typing}
    (h : Holding config keyset front mode passed used typing) (held : front ≠ 0)
    (means : (keyset.resolve { front } mode).1 = some command) :
    typing.autorepeat.1 = (if config.RepeatsAt (passed + 1) then some command else none) ∧
      Holding config keyset front mode (passed + 1) (used || typing.autorepeat.1.isSome)
        typing.autorepeat.2 := by
  unfold Typing.autorepeat
  dsimp only
  by_cases zero : countDown typing.countdown = 0
  · obtain ⟨now, later⟩ := h.due.repeated zero
    simp only [zero, ne_eq, not_true_eq_false, if_false, h.keyboard,
      Keyboard.repeatHeld_holding h.panel held means, if_pos now, Option.isSome_some, if_true,
      Bool.or_true, true_and]
    exact ⟨h.configured, h.panel, rfl, by rw [h.configured]; exact later⟩
  · obtain ⟨early, later⟩ := h.due.wait zero
    simp only [zero, ne_eq, not_false_eq_true, if_true, if_neg early, Option.isSome_none,
      Bool.or_false, true_and]
    exact ⟨h.configured, h.panel, h.keyboard, later⟩

end

/-- Without a byte, an empty supply stays empty. -/
theorem Supply.after?_of_silent {events : List Event} (silent : Silent events) :
    ({} : Supply).after? events = some {} := by
  refine after?_of_unread _ fun event inside => ?_
  have unheard := silent event inside
  unfold Event.heard? at unheard
  split at unheard
  · cases unheard
  · next unread =>
    unfold next?
    split
    · rfl
    · rfl
    · exact absurd rfl (unread _ _ _ _ _)
    · rfl

namespace Session

variable {T : Type}

/-! ## Front keys -/

/-- A front key reports no signal but the fault, and that only when it is pressed. -/
theorem front_plain {geometry : Geometry} {byte bit : UInt8} {released : Bool}
    (reported : KeyEvent.ofByte? geometry byte = some ⟨.front bit, released⟩) :
    byte ≠ Signal.announce ∧ byte ≠ Signal.taken ∧ byte ≠ Signal.takenMore ∧
      (byte = Signal.fault → released = false) := by
  obtain ⟨rfl, low⟩ := KeyEvent.code_of_ofByte? reported
  refine ⟨?_, ?_, ?_, ?_⟩
  · rintro rfl
    exact absurd low (by decide)
  · rintro rfl
    exact absurd low (by decide)
  · rintro rfl
    exact absurd low (by decide)
  · rintro rfl
    obtain ⟨key, _, same⟩ := Option.map_eq_some_iff.mp reported
    exact (KeyEvent.mk.inj same).2.symm

/-- A byte that reports a front key while the session is connected goes to the keyboard, unless it
is confirmed to report a fault. -/
theorem Hearing.front {s t : Session T} {byte : UInt8} {reaction : Reaction} {calls : List Entry}
    (h : s.Hearing byte reaction t calls) (connected : s.link.state.isConnected = true)
    {keyset : Keyset} (panel : s.model.panel = .chords keyset) {bit : UInt8} {released : Bool}
    (reported : KeyEvent.ofByte? s.model.geometry byte = some ⟨.front bit, released⟩) :
    released = false ∧ t.link.state = .off ∨
      reaction = (Keyboard.event keyset s.keyboard.endPress ⟨.front bit, released⟩).1.reaction ∧
        t.keyboard = (Keyboard.event keyset s.keyboard.endPress ⟨.front bit, released⟩).2 := by
  obtain ⟨announce, taken, takenMore, fault⟩ := front_plain reported
  have keyed {u : Session T} (heard : u.hearInState byte = (reaction, t)) (link : u.link = s.link)
      (model : u.model = s.model) (keyboard : u.keyboard = s.keyboard) :
      reaction = (Keyboard.event keyset s.keyboard.endPress ⟨.front bit, released⟩).1.reaction ∧
        t.keyboard = (Keyboard.event keyset s.keyboard.endPress ⟨.front bit, released⟩).2 := by
    rw [hearInState_connected (by rw [link]; exact connected) taken takenMore] at heard
    have decoded : u.keyboard.decode u.model u.context byte =
        Keyboard.event keyset s.keyboard.endPress ⟨.front bit, released⟩ := by
      simp only [Keyboard.decode, Keyboard.decodeChord, model, keyboard, panel, reported]
    rw [hearKey, decoded] at heard
    obtain ⟨rfl, rfl⟩ := Prod.mk.inj heard
    exact ⟨rfl, rfl⟩
  cases h with
  | confirmed first second same up =>
    refine .inl ⟨fault same, ?_⟩
    rw [link_apply]
    exact congrArg Link.state (Link.apply_disconnected up)
  | announced _ same => exact absurd same announce
  | cancelled first second _ _ heard => exact .inr (keyed heard rfl rfl rfl)
  | plain transport _ _ heard => exact .inr (keyed heard rfl rfl rfl)

/-- Once the link is down and nothing more is heard, it stays down. -/
theorem Reading.off {s t : Session T} {heard : Bool} {outcome : Drained} {calls : List Entry}
    (h : s.Reading heard outcome t calls) (silent : heardIn (calls.map .called) = [])
    (off : s.link.state = .off) : t.link.state = .off := by
  cases h with
  | failed => simp
  | nothing => exact off
  | key heard hearing =>
    rw [hearing.heardIn_eq] at silent
    cases silent
  | other heard hearing unkeyed later =>
    rw [List.map_append, heardIn_append, hearing.heardIn_eq] at silent
    cases silent

/-- A front key that was pressed with the last byte is held, unless the link is down. -/
theorem Reading.pressed {s t : Session T} {heard : Bool} {outcome : Drained} {calls : List Entry}
    (h : s.Reading heard outcome t calls) {state : LinkState} {byte bit : UInt8}
    (last : (heardIn (calls.map .called)).getLast? = some (state, byte))
    (connected : state.isConnected = true) {keyset : Keyset}
    (panel : s.model.panel = .chords keyset)
    (reported : KeyEvent.ofByte? s.model.geometry byte = some ⟨.front bit, false⟩) :
    t.link.state = .off ∨ outcome = .key (some .noop) ∧
      ∃ keyboard : Keyboard, t.keyboard = (keyboard.pressFront bit).2 := by
  induction h with
  | failed | nothing => cases last
  | key heard hearing =>
    rw [hearing.heardIn_eq] at last
    obtain ⟨rfl, rfl⟩ := Prod.mk.inj (Option.some.inj last)
    rcases hearing.front connected panel reported with ⟨_, off⟩ | ⟨reacted, keyboard⟩
    · exact .inl off
    · exact .inr ⟨congrArg Drained.key (Reaction.key.inj reacted), _, keyboard⟩
  | @other s t u heard first reaction outcome calls more hearing unkeyed later ih =>
    rw [List.map_append, heardIn_append, hearing.heardIn_eq] at last
    cases rest : heardIn (more.map .called) with
    | nil =>
      rw [rest] at last
      obtain ⟨rfl, rfl⟩ := Prod.mk.inj (Option.some.inj last)
      rcases hearing.front connected panel reported with ⟨_, off⟩ | ⟨reacted, _⟩
      · exact .inl (later.off rest off)
      · exact absurd reacted (unkeyed _)
    | cons entry entries =>
      rw [rest] at last
      refine ih ?_ (by rw [hearing.model_eq, panel]) (by rw [hearing.model_eq, reported])
      rw [rest, ← last, List.singleton_append, List.getLast?_cons_cons]

/-- If the first byte lets a front key go, reading ends with what that gives. -/
theorem Reading.released {s t : Session T} {heard : Bool} {outcome : Drained} {calls : List Entry}
    (h : s.Reading heard outcome t calls) (connected : s.link.state.isConnected = true)
    {state : LinkState} {byte bit : UInt8}
    (first : (heardIn (calls.map .called)).head? = some (state, byte)) {keyset : Keyset}
    (panel : s.model.panel = .chords keyset)
    (reported : KeyEvent.ofByte? s.model.geometry byte = some ⟨.front bit, true⟩)
    {command : Option Command}
    (gives : (Keyboard.releaseFront keyset s.keyboard.endPress bit).1.reaction = .key command) :
    outcome = .key command := by
  have reacts {u : Session T} {other : UInt8} {reaction : Reaction} {entries : List Entry}
      {more : List (LinkState × UInt8)} (hearing : s.Hearing other reaction u entries)
      (same : (heardIn (entries.map .called) ++ more).head? = some (state, byte)) :
      reaction = .key command := by
    rw [hearing.heardIn_eq] at same
    obtain ⟨rfl, rfl⟩ := Prod.mk.inj (Option.some.inj same)
    rcases hearing.front connected panel reported with ⟨pressed, _⟩ | ⟨reacted, _⟩
    · cases pressed
    · exact reacted.trans gives
  cases h with
  | failed | nothing => cases first
  | key heard hearing =>
    rw [← List.append_nil (heardIn _)] at first
    exact congrArg Drained.key (Reaction.key.inj (reacts hearing first))
  | other heard hearing unkeyed later =>
    rw [List.map_append, heardIn_append] at first
    exact absurd (reacts hearing first) (unkeyed _)

variable [Transport T]

/-- The last byte that the poll reads presses a front key of a connected display. A poll reads
nothing after a key event that it takes. -/
def EndsWithPress (s : Session T) (elapsed : UInt32) : Prop :=
  ∃ state byte bit, (heardIn (s.events (.poll elapsed))).getLast? = some (state, byte) ∧
    state.isConnected = true ∧
    KeyEvent.ofByte? s.model.geometry byte = some ⟨.front bit, false⟩

/-- The first byte that the poll reads lets a front key go. -/
def BeginsWithRelease (s : Session T) (elapsed : UInt32) : Prop :=
  ∃ state byte bit, (heardIn (s.events (.poll elapsed))).head? = some (state, byte) ∧
    KeyEvent.ofByte? s.model.geometry byte = some ⟨.front bit, true⟩

theorem press_ne_zero {bit : UInt8} (small : bit < 32) (front : FrontKeys) :
    front ||| frontKey bit ≠ 0 := by
  intro empty
  have held : Holds (front ||| frontKey bit) bit := (holds_press small small front).mpr (.inl rfl)
  rw [empty] at held
  exact not_holds_zero bit held

/-- After a press the chord is held for the whole delay. -/
theorem holding_of_press {s : Session T} {elapsed : UInt32} (pressed : s.EndsWithPress elapsed)
    {keyset : Keyset} (panel : s.model.panel = .chords keyset)
    (connected : (s.poll elapsed).2.link.state.isConnected = true) :
    (s.poll elapsed).2.keyboard.held.front ≠ 0 ∧
      Typing.Holding s.config keyset (s.poll elapsed).2.keyboard.held.front
        (s.poll elapsed).2.keyboard.mode 0 false (s.poll elapsed).2.typing := by
  obtain ⟨state, byte, bit, last, heard, reported⟩ := pressed
  rw [(s.heardIn_poll elapsed).1] at last
  have small : bit < 32 := (KeyEvent.code_of_ofByte? reported).2
  have reading := (s.tick elapsed).reading_drain false
  have path := (drain_reaches (s.tick elapsed) false []).path
  have down := (s.poll_down_iff elapsed).mpr
  unfold poll at connected down ⊢
  cases drained : (s.tick elapsed).drain false with
  | mk outcome t =>
    simp only [drained] at reading path last down connected ⊢
    rcases reading.pressed last heard panel reported with off | ⟨rfl, keyboard, held⟩
    · rw [down (.inl off)] at connected
      cases connected
    · have same := typing_flush { t with countdown := t.config.repeatDelay }
      have config : t.config = s.config := path.config_eq
      have model : t.model = s.model := path.model_eq
      have front := (congrArg Typing.keyboard same).trans held
      change (flush _).keyboard = _ at front
      rw [front]
      refine ⟨press_ne_zero small keyboard.held.front, ?_, ?_, front, ?_⟩
      · rw [same]
        exact config
      · rw [same]
        exact (congrArg Model.panel model).trans panel
      · rw [same]
        change s.config.Due 0 t.config.repeatDelay
        rw [config]
        exact s.config.due_delay

theorem staysConnected_last {s : Session T} {operations : List (Operation T)}
    (h : s.staysConnected operations = true) :
    (s.run operations).2.link.state.isConnected = true := by
  induction operations generalizing s with
  | nil => exact h
  | cons operation operations ih => exact ih (Bool.and_eq_true_iff.mp h).2

section

variable {s : Session T} {config : Config} {keyset : Keyset} {front : FrontKeys} {mode : InputMode}
  {command : Command} {passed : Nat} {used : Bool}

/-- A poll of a connected session that reads no byte repeats the chord on schedule. -/
theorem holding_poll (held : front ≠ 0) (means : (keyset.resolve { front } mode).1 = some command)
    (h : Typing.Holding config keyset front mode passed used s.typing) {elapsed : UInt32}
    (silent : Silent (s.events (.poll elapsed)))
    (before : s.link.state.isConnected = true)
    (after : (s.poll elapsed).2.link.state.isConnected = true) :
    (s.poll elapsed).1 = (if config.RepeatsAt (passed + 1) then some command else none) ∧
      Typing.Holding config keyset front mode (passed + 1) (used || (s.poll elapsed).1.isSome)
        (s.poll elapsed).2.typing := by
  have plain : ({} : Supply).Plain := by simp [Supply.Plain]
  obtain ⟨_, _, polled⟩ := poll_typing before plain (Supply.after?_of_silent silent) after
  have answer : (s.poll elapsed).1 = s.typing.autorepeat.1 := (congrArg Prod.fst polled).symm
  have left : (s.poll elapsed).2.typing = s.typing.autorepeat.2 := (congrArg (·.2.1) polled).symm
  rw [answer, left]
  exact h.autorepeat held means

/-- While no byte is read and the session stays connected, a held chord is repeated on schedule. -/
theorem holding_run (held : front ≠ 0) (means : (keyset.resolve { front } mode).1 = some command)
    (h : Typing.Holding config keyset front mode passed used s.typing)
    {operations : List (Operation T)} (silent : Silent (s.history operations))
    (up : s.staysConnected operations = true) :
    (∀ i typed, (s.typed operations)[i]? = some typed →
      typed.command = (if config.RepeatsAt (passed + i + 1) then some command else none) ∧
        typed.keyboard.mode = mode) ∧
    Typing.Holding config keyset front mode (passed + (s.typed operations).length)
      (used || (s.typed operations).any (·.command.isSome)) (s.run operations).2.typing := by
  induction operations generalizing s passed used with
  | nil =>
    refine ⟨by simp [typed], ?_⟩
    simpa [typed, run] using h
  | cons operation operations ih =>
    obtain ⟨connected, up⟩ := Bool.and_eq_true_iff.mp up
    obtain ⟨still, silent⟩ := silent_append.mp silent
    cases operation with
    | poll elapsed =>
      obtain ⟨repeated, later⟩ :=
        holding_poll held means h still connected (staysConnected_first up)
      obtain ⟨schedule, last⟩ := ih later silent up
      have polls : s.typed (.poll elapsed :: operations) =
          ⟨(s.poll elapsed).1, (s.poll elapsed).2.keyboard, (s.poll elapsed).2.countdown⟩ ::
            (s.poll elapsed).2.typed operations := rfl
      rw [polls]
      constructor
      · rintro (_ | i) entry found
        · cases found
          exact ⟨repeated, congrArg Keyboard.mode later.keyboard⟩
        · have next := schedule i entry found
          rwa [Nat.add_assoc passed 1 i, Nat.add_comm 1 i] at next
      · rw [List.length_cons, List.any_cons, ← Bool.or_assoc, Nat.add_comm _ 1, ← Nat.add_assoc]
        exact last
    | write area cells => exact ih ((s.typing_write area cells).symm ▸ h) silent up
    | setContext context => exact ih ⟨h.configured, h.panel, h.keyboard, h.due⟩ silent up
    | device act => exact ih h silent up

/-- Letting a front key go interprets the held chord unless it was repeated. -/
theorem poll_release (means : (keyset.resolve { front } mode).1 = some command)
    (h : Typing.Holding config keyset front mode passed used s.typing)
    (connected : s.link.state.isConnected = true) {elapsed : UInt32}
    (released : s.BeginsWithRelease elapsed) :
    (s.poll elapsed).1 = if used then none else some command := by
  obtain ⟨state, byte, bit, first, reported⟩ := released
  rw [(s.heardIn_poll elapsed).1] at first
  have keyboard : s.keyboard.endPress = .holding front mode used := by
    rw [show s.keyboard = .holding front mode used from h.keyboard]
    rfl
  have gives : (Keyboard.releaseFront keyset s.keyboard.endPress bit).1.reaction =
      .key (if used then none else some command) := by
    rw [keyboard, Keyboard.releaseFront_holding means]
    cases used <;> rfl
  have ended := ((s.tick elapsed).reading_drain false).released connected first h.panel reported
    gives
  unfold poll
  cases drained : (s.tick elapsed).drain false with
  | mk outcome t =>
    rw [drained] at ended
    cases ended
    rfl

end

/-- Autorepeat follows a schedule. A poll of a display with separate keys ends with the press of a
front key, after which the session is connected and the keys held give a command. While no byte is
read and the session stays connected, whatever else the host does, the command is repeated in the
polls that the schedule says and in no others, and the input mode stays. If the next poll begins
with the release of a front key, it answers the command only if it was never repeated. -/
theorem autorepeat_follows_schedule {line : Line T} {config : Config} {opened : Session T}
    (h : connect line config = .ok opened) {keyset : Keyset}
    (panel : opened.model.panel = .chords keyset) (before : List (Operation T)) (elapsed : UInt32)
    (pressed : (opened.run before).2.EndsWithPress elapsed) :
    let s := ((opened.run before).2.poll elapsed).2
    ∀ command operations, (keyset.resolve s.keyboard.held s.keyboard.mode).1 = some command →
      Silent (s.history operations) → s.staysConnected operations = true →
      (∀ i typed, (s.typed operations)[i]? = some typed →
        typed.command = (if config.RepeatsAt (i + 1) then some command else none) ∧
          typed.keyboard.mode = s.keyboard.mode) ∧
      ∀ later, (s.run operations).2.BeginsWithRelease later →
        ((s.run operations).2.poll later).1 =
          if (s.typed operations).any (·.command.isSome) then none else some command := by
  obtain ⟨_, same, _⟩ := connect_eq h
  have path := run_path opened before []
  have configured : (opened.run before).2.config = config := path.config_eq.trans same
  have panel' : (opened.run before).2.model.panel = .chords keyset :=
    (congrArg Model.panel path.model_eq).trans panel
  intro s command operations means silent up
  obtain ⟨held, holding⟩ := holding_of_press pressed panel' (staysConnected_first up)
  rw [configured] at holding
  have chord : s.keyboard.held = { front := s.keyboard.held.front } :=
    congrArg Keyboard.held holding.keyboard
  rw [chord] at means
  obtain ⟨schedule, still⟩ := holding_run held means holding silent up
  simp only [Nat.zero_add, Bool.false_or] at schedule still
  exact ⟨schedule, fun later released =>
    poll_release means still (staysConnected_last up) released⟩

/-- The upper end of a rocker is held with an interval of zero, which counts as one. A frame goes
out before the second poll. -/
theorem autorepeat_follows_schedule_rocker : ∃ opened : Session ScriptedTransport,
    connect ⟨{ replies := [[0xFE, 0xFE, 0x80]] }, []⟩ { repeatDelay := 2, repeatInterval := 0 } =
      .ok opened ∧
    let s := ((opened.run [.device (·.receive [0x04])]).2.poll 5).2
    let operations : List (Operation ScriptedTransport) :=
      [.poll 5, .write .main (List.replicate 20 3), .poll 5, .poll 5, .device (·.receive [0x84])]
    (s.typed operations)[0]?.map Typed.command = some none ∧
    (s.typed operations)[2]?.map Typed.command = some (some (.perform .fullWindowLeft)) ∧
    ((s.run operations).2.poll 5).1 = none := by
  let config : Config := { repeatDelay := 2, repeatInterval := 0 }
  let before : List (Operation ScriptedTransport) := [.device (·.receive [0x04])]
  let operations : List (Operation ScriptedTransport) :=
    [.poll 5, .write .main (List.replicate 20 3), .poll 5, .poll 5, .device (·.receive [0x84])]
  obtain ⟨opened, connected⟩ := exists_connect (T := ScriptedTransport)
    ⟨{ replies := [[0xFE, 0xFE, 0x80]] }, []⟩ config (by decide +kernel)
  have panel : opened.model.panel = .chords .modular :=
    of_connect connected (·.model.panel) (by decide +kernel)
  have pressed : (opened.run before).2.EndsWithPress 5 :=
    ⟨.ready, 0x04, 0x04, of_decide_eq_true <| of_connect connected (fun s =>
      let t := (s.run before).2
      decide ((heardIn (t.events (.poll 5))).getLast? = some (.ready, 0x04) ∧
        LinkState.ready.isConnected = true ∧
        KeyEvent.ofByte? t.model.geometry 0x04 = some ⟨.front 0x04, false⟩)) (by decide +kernel)⟩
  have held := of_decide_eq_true <| of_connect connected (fun s =>
    let t := ((s.run before).2.poll 5).2
    decide ((Keyset.modular.resolve t.keyboard.held t.keyboard.mode).1 =
        some (.perform .fullWindowLeft) ∧ Silent (t.history operations) ∧
      t.staysConnected operations = true ∧ (t.typed operations).length = 3 ∧
      (t.typed operations).any (·.command.isSome) = true)) (by decide +kernel)
  obtain ⟨means, silent, up, length, used⟩ := held
  have released : (((opened.run before).2.poll 5).2.run operations).2.BeginsWithRelease 5 :=
    ⟨.writing, 0x84, 0x04, of_decide_eq_true <| of_connect connected (fun s =>
      let t := (((s.run before).2.poll 5).2.run operations).2
      decide ((heardIn (t.events (.poll 5))).head? = some (.writing, 0x84) ∧
        KeyEvent.ofByte? t.model.geometry 0x84 = some ⟨.front 0x04, true⟩)) (by decide +kernel)⟩
  obtain ⟨schedule, release⟩ := autorepeat_follows_schedule connected panel before 5 pressed
    (.perform .fullWindowLeft) operations means silent up
  refine ⟨opened, connected, ?_, ?_, ?_⟩
  · rw [List.getElem?_eq_getElem (by rw [length]; decide), Option.map_some]
    exact congrArg some ((schedule 0 _ (List.getElem?_eq_getElem _)).1.trans (by decide))
  · rw [List.getElem?_eq_getElem (by rw [length]; decide), Option.map_some]
    exact congrArg some ((schedule 2 _ (List.getElem?_eq_getElem _)).1.trans (by decide))
  · rw [release 5 released, used, if_pos rfl]

end Session

end BrailleDisplay
