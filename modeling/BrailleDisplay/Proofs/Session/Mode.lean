import BrailleDisplay.Proofs.Keyboard.Mode
import BrailleDisplay.Proofs.Session.Forgetting
import BrailleDisplay.Proofs.Session.Identification

/-!
# The input mode of a session

A session uses its keyboard while it polls, and nothing else that happens in it reaches the input
mode. So the mode changes in a poll that lets a front key go or repeats the chord held, through the
mode chord, and in no other operation. The chord is older than the poll, which would have forgotten
it if the display had named itself again.
-/
namespace BrailleDisplay

theorem Keyset.modeChord_ne_zero (keyset : Keyset) (mode : InputMode) :
    keyset.modeChord mode ≠ 0 := by
  cases keyset <;> cases mode <;> decide

theorem unnamed_iff {model : Model} {events : List Event} :
    Unnamed model events ↔ (.identifying, model.identifier) ∉ heardIn events := by
  simp only [Unnamed, Event.Identifies, heardIn, List.mem_filterMap, not_exists, not_and]

namespace Session

variable {T : Type}

/-- The calls made from one session to another switch no mode. They leave the front keys as they
are, unless the display has named itself, which forgets them. -/
structure Spares (s t : Session T) (calls : List Entry) : Prop where
  model : t.model = s.model
  countdown : t.countdown = s.countdown
  mode : t.keyboard.mode = s.keyboard.mode
  front : (t.keyboard.pending = s.keyboard.pending ∧
      t.keyboard.held.front = s.keyboard.held.front ∧ Unnamed s.model (calls.map .called)) ∨
    t.keyboard.pending = none ∧ t.keyboard.held.front = 0

/-- A byte lets a front key go, and the chord to be interpreted is the one of the mode. -/
def ReleasesChord (s : Session T) (byte : UInt8) (mode : InputMode) : Prop :=
  ∃ keyset bit, s.model.panel = .chords keyset ∧
    KeyEvent.ofByte? s.model.geometry byte = some ⟨.front bit, true⟩ ∧
    s.keyboard.pending = some (keyset.modeChord mode)

theorem Spares.of_keyboard {s t : Session T} {calls : List Entry}
    (model : t.model = s.model) (countdown : t.countdown = s.countdown)
    (keyboard : t.keyboard = s.keyboard) (unnamed : Unnamed s.model (calls.map .called)) :
    s.Spares t calls :=
  ⟨model, countdown, by rw [keyboard], .inl ⟨by rw [keyboard], by rw [keyboard], unnamed⟩⟩

theorem Spares.trans {s t u : Session T} {calls more : List Entry}
    (first : s.Spares t calls) (later : t.Spares u more) : s.Spares u (calls ++ more) := by
  refine ⟨later.model.trans first.model, later.countdown.trans first.countdown,
    later.mode.trans first.mode, ?_⟩
  rcases later.front with ⟨pending, front, unnamed⟩ | forgotten
  · rw [pending, front]
    rcases first.front with ⟨pending, front, unnamed'⟩ | forgotten
    · rw [first.model] at unnamed
      refine .inl ⟨pending, front, ?_⟩
      rw [List.map_append, unnamed_append]
      exact ⟨unnamed', unnamed⟩
    · exact .inr forgotten
  · exact .inr forgotten

/-- A chord that is still there later was there before, and the display did not name itself in
between. -/
theorem Spares.releasesChord {s t : Session T} {calls : List Entry} {byte : UInt8}
    {mode : InputMode} (spares : s.Spares t calls) (releases : t.ReleasesChord byte mode) :
    s.ReleasesChord byte mode ∧ Unnamed s.model (calls.map .called) := by
  obtain ⟨keyset, bit, panel, reported, pending⟩ := releases
  rw [spares.model] at panel reported
  rcases spares.front with ⟨kept, _, unnamed⟩ | ⟨none, _⟩
  · exact ⟨⟨keyset, bit, panel, reported, kept ▸ pending⟩, unnamed⟩
  · rw [none] at pending
    cases pending

/-! ## One byte -/

theorem spares_hearKey {s : Session T} {byte : UInt8} {calls : List Entry}
    (unkeyed : ∀ command, (s.hearKey byte).1 ≠ .key command)
    (unnamed : Unnamed s.model (calls.map .called)) : s.Spares (s.hearKey byte).2 calls := by
  have kept : (s.hearKey byte).2.keyboard = s.keyboard ∨
      (s.hearKey byte).2.keyboard = s.keyboard.endPress :=
    Keyboard.decode_stray (decode_of_unkeyed unkeyed)
  rcases kept with kept | ended
  · exact .of_keyboard rfl rfl kept unnamed
  · exact ⟨rfl, rfl, by rw [ended]; rfl, .inl ⟨by rw [ended]; rfl, by rw [ended]; rfl, unnamed⟩⟩

theorem Treats.spares {s t : Session T} {byte : UInt8} {reaction : Reaction} {calls : List Entry}
    (h : s.Treats byte reaction t) (unkeyed : ∀ command, reaction ≠ .key command)
    (unnamed : (s.link.state = .identifying → byte ≠ s.model.identifier) →
      Unnamed s.model (calls.map .called)) : s.Spares t calls := by
  cases h with
  | ignored _ other => exact .of_keyboard rfl rfl rfl (unnamed other)
  | identified => exact ⟨rfl, rfl, rfl, .inr ⟨rfl, rfl⟩⟩
  | acknowledged state | acknowledgedMore state =>
    exact .of_keyboard rfl rfl rfl (unnamed (by simp [state]))
  | keyed connected =>
    refine spares_hearKey unkeyed (unnamed fun identifying => ?_)
    rw [identifying] at connected
    cases connected

theorem switches_hearKey {s : Session T} {byte : UInt8}
    (changed : (s.hearKey byte).2.keyboard.mode ≠ s.keyboard.mode) :
    (s.hearKey byte).1 = .key none ∧
      s.ReleasesChord byte (s.hearKey byte).2.keyboard.mode := by
  obtain ⟨absorbed, released⟩ := Keyboard.switches_of_decode changed
  refine ⟨?_, released⟩
  simp only [hearKey, absorbed]

theorem Treats.switches {s t : Session T} {byte : UInt8} {reaction : Reaction}
    (h : s.Treats byte reaction t) (changed : t.keyboard.mode ≠ s.keyboard.mode) :
    s.link.state.isConnected = true ∧ reaction = .key none ∧
      s.ReleasesChord byte t.keyboard.mode := by
  cases h with
  | ignored | identified | acknowledged | acknowledgedMore => exact absurd rfl changed
  | keyed connected => exact ⟨connected, switches_hearKey changed⟩

theorem Hearing.unnamed {s t : Session T} {byte : UInt8} {reaction : Reaction}
    {calls : List Entry} (h : s.Hearing byte reaction t calls)
    (other : s.link.state = .identifying → byte ≠ s.model.identifier) :
    Unnamed s.model (calls.map .called) := by
  rw [unnamed_iff, h.heardIn_eq, List.mem_singleton, Prod.mk.injEq]
  exact fun same => other same.1.symm same.2.symm

theorem Hearing.spares {s t : Session T} (supported : s.model ∈ Model.registry) {byte : UInt8}
    {reaction : Reaction} {calls : List Entry} (h : s.Hearing byte reaction t calls)
    (unkeyed : ∀ command, reaction ≠ .key command) : s.Spares t calls := by
  have unnamed := h.unnamed
  obtain ⟨announce, fault⟩ := Model.identifier_of_mem supported
  cases h with
  | confirmed _ _ same => exact .of_keyboard rfl rfl rfl (unnamed fun _ => same ▸ fault.symm)
  | announced _ same => exact .of_keyboard rfl rfl rfl (unnamed fun _ => same ▸ announce.symm)
  | cancelled first second _ _ heard | plain _ _ _ heard =>
    have spares := (treats_of_hearInState heard).spares unkeyed unnamed
    exact ⟨spares.model, spares.countdown, spares.mode, spares.front⟩

theorem Hearing.switches {s t : Session T} {byte : UInt8} {reaction : Reaction}
    {calls : List Entry} (h : s.Hearing byte reaction t calls)
    (changed : t.keyboard.mode ≠ s.keyboard.mode) :
    s.link.state.isConnected = true ∧ reaction = .key none ∧
      s.ReleasesChord byte t.keyboard.mode := by
  cases h with
  | confirmed | announced => exact absurd rfl changed
  | cancelled first second _ _ heard | plain _ _ _ heard =>
    have switches := (treats_of_hearInState heard).switches changed
    exact switches

/-! ## Reading -/

theorem Reading.spares {s t : Session T} (supported : s.model ∈ Model.registry) {heard any : Bool}
    {outcome : Drained} {calls : List Entry} (h : s.Reading heard outcome t calls)
    (dry : outcome = .dry any) : s.Spares t calls := by
  induction h with
  | failed | nothing =>
    exact .of_keyboard rfl rfl rfl (by simp [unnamed_iff, heardIn, Event.heard?])
  | key => cases dry
  | other heard hearing unkeyed later ih =>
    have spares := hearing.spares supported unkeyed
    exact spares.trans (ih (spares.model ▸ supported) dry)

theorem Reading.switches {s t : Session T} (supported : s.model ∈ Model.registry) {heard : Bool}
    {outcome : Drained} {calls : List Entry} (h : s.Reading heard outcome t calls)
    (changed : t.keyboard.mode ≠ s.keyboard.mode) :
    outcome = .key none ∧ Unnamed s.model (calls.map .called) ∧ ∃ state byte,
      (heardIn (calls.map .called)).getLast? = some (state, byte) ∧ state.isConnected = true ∧
        s.ReleasesChord byte t.keyboard.mode := by
  induction h with
  | failed | nothing => exact absurd rfl changed
  | key heard hearing =>
    obtain ⟨connected, gives, releases⟩ := hearing.switches changed
    refine ⟨by rw [Reaction.key.inj gives], hearing.unnamed ?_, _, _, ?_, connected, releases⟩
    · intro identifying
      rw [identifying] at connected
      cases connected
    · rw [hearing.heardIn_eq]
      rfl
  | other heard hearing unkeyed later ih =>
    have spares := hearing.spares supported unkeyed
    rw [← spares.mode] at changed
    obtain ⟨gives, unnamed, state, byte, last, connected, releases⟩ :=
      ih (spares.model ▸ supported) changed
    obtain ⟨releases, unnamed'⟩ := spares.releasesChord releases
    rw [spares.model] at unnamed
    rw [List.map_append, unnamed_append, heardIn_append, List.getLast?_append, last]
    exact ⟨gives, ⟨unnamed', unnamed⟩, state, byte, rfl, connected, releases⟩

/-- Repeating switches the mode only if the mode chord is held alone when the countdown has run
out. -/
theorem switches_autorepeat {s : Session T}
    (changed : s.autorepeat.2.keyboard.mode ≠ s.keyboard.mode) :
    s.autorepeat.1 = none ∧ countDown s.countdown = 0 ∧ s.link.state.isConnected = true ∧
      ∃ keyset, s.model.panel = .chords keyset ∧ s.autorepeat.2.keyboard.held = s.keyboard.held ∧
        s.keyboard.held = { front := keyset.modeChord s.autorepeat.2.keyboard.mode } := by
  have connected : s.link.state.isConnected = true := by
    by_contra apart
    exact changed (by rw [(autorepeat_apart (Bool.eq_false_iff.mpr apart)).2])
  unfold autorepeat at changed ⊢
  dsimp only at changed ⊢
  by_cases waiting : countDown s.countdown ≠ 0
  · simp only [if_pos waiting] at changed
    exact absurd rfl changed
  · simp only [if_neg waiting, if_pos connected] at changed ⊢
    obtain ⟨none, keyset, panel, held⟩ := Keyboard.switches_of_repeatHeld changed
    exact ⟨none, not_not.mp waiting, connected, keyset, panel,
      s.keyboard.held_repeatHeld s.model, held⟩

variable [Transport T]

/-! ## Operations -/

/-- How a poll switches to a mode. -/
inductive SwitchesMode (s : Session T) (elapsed : UInt32) (mode : InputMode) : Prop where
  /-- The last byte read interprets the mode chord, which was to be interpreted before the poll. -/
  | released {state : LinkState} {byte : UInt8}
      (heard : (heardIn (s.events (.poll elapsed))).getLast? = some (state, byte))
      (connected : state.isConnected = true) (releases : s.ReleasesChord byte mode)
  /-- The mode chord is held and repeated. -/
  | repeated {keyset : Keyset} (panel : s.model.panel = .chords keyset)
      (due : countDown s.countdown = 0)
      (connected : (s.poll elapsed).2.link.state.isConnected = true)
      (held : (s.poll elapsed).2.keyboard.held = { front := keyset.modeChord mode })

theorem switches_poll {s : Session T} (supported : s.model ∈ Model.registry) {elapsed : UInt32}
    (changed : (s.poll elapsed).2.keyboard.mode ≠ s.keyboard.mode) :
    (s.poll elapsed).1 = none ∧ Unnamed s.model (s.events (.poll elapsed)) ∧
      s.SwitchesMode elapsed (s.poll elapsed).2.keyboard.mode := by
  have reading := (s.tick elapsed).reading_drain false
  have heard := (s.heardIn_poll elapsed).1
  cases drained : (s.tick elapsed).drain false with
  | mk outcome t =>
    rw [drained] at reading heard
    rw [unnamed_iff, heard, ← unnamed_iff]
    cases outcome with
    | key command =>
      have polled : s.poll elapsed =
          (command, { t with countdown := t.config.repeatDelay }.flush) := by
        simp only [poll, drained]
      have keyboard : (s.poll elapsed).2.keyboard = t.keyboard := by
        rw [polled]
        exact congrArg Typing.keyboard (typing_flush _)
      rw [keyboard] at changed ⊢
      obtain ⟨gives, unnamed, state, byte, last, connected, releases⟩ :=
        reading.switches (s := s.tick elapsed) supported changed
      refine ⟨?_, unnamed, .released (heard ▸ last) connected releases⟩
      rw [polled, Drained.key.inj gives]
    | dry any =>
      have spares := reading.spares (s := s.tick elapsed) supported rfl
      obtain ⟨u, typing, polled⟩ : ∃ u : Session T,
          u.typing = t.typing ∧ s.poll elapsed = u.autorepeat := by
        cases any with
        | true => exact ⟨_, t.typing_flush, by simp only [poll, drained]⟩
        | false =>
          exact ⟨_, t.recover.typing_flush.trans t.typing_recover, by simp only [poll, drained]⟩
      have keyboard : u.keyboard = t.keyboard := congrArg Typing.keyboard typing
      have model : u.model = s.model := (congrArg Typing.model typing).trans spares.model
      have countdown : u.countdown = s.countdown :=
        (congrArg Typing.countdown typing).trans spares.countdown
      have mode : u.keyboard.mode = s.keyboard.mode := keyboard ▸ spares.mode
      rw [polled, ← mode] at changed
      obtain ⟨gives, due, connected, keyset, panel, same, held⟩ := switches_autorepeat changed
      rw [countdown] at due
      rw [model] at panel
      -- The chord held is no empty one, so the display has not named itself.
      have unnamed : Unnamed s.model (((s.tick elapsed).callsUntil t).map .called) := by
        rcases spares.front with ⟨_, _, unnamed⟩ | ⟨_, forgotten⟩
        · exact unnamed
        · rw [← keyboard, held] at forgotten
          exact absurd forgotten (keyset.modeChord_ne_zero _)
      rw [polled]
      refine ⟨gives, unnamed, .repeated panel due ?_ ?_⟩
      · rw [polled, autorepeat_link]
        exact connected
      · rw [polled, same]
        exact held

/-- Whatever else the host does, the mode stays. -/
theorem mode_unpolled (s : Session T) {operation : Operation T}
    (unpolled : operation.elapsed? = none) :
    (s.perform operation).2.keyboard.mode = s.keyboard.mode := by
  cases operation with
  | poll elapsed => cases unpolled
  | write area cells => exact congrArg (·.keyboard.mode) (s.typing_write area cells)
  | setContext | device => rfl

/-- The input mode changes only through the two mode chords. A chord changes it exactly if it is a
mode chord, and gives no command then. After any calls on a new keyboard it is the one of the last
mode chord that was interpreted. While a session runs it changes only in a poll that interprets a
mode chord and in which the display does not name itself; so losing and recovering the link, a new
identification and showing cells leave it as it is. -/
theorem mode_follows_mode_chords :
    (∀ (keyset : Keyset) (chord : Chord) (mode : InputMode),
      ((keyset.resolve chord mode).2 ≠ mode → ∃ target,
        chord = { front := keyset.modeChord target } ∧
          keyset.resolve chord mode = (none, target)) ∧
      (∀ target, chord = { front := keyset.modeChord target } →
        keyset.resolve chord mode = (none, target)) ∧
      ∀ command, (keyset.resolve chord mode).1 = some command →
        (keyset.resolve chord mode).2 = mode) ∧
    (∀ (model : Model) (keyset : Keyset), model.panel = .chords keyset → ∀ calls,
      ((Keyboard.replay model calls).2.mode = .dots ↔
        ((Keyboard.chordsIn model [] calls).filterMap keyset.switch?).getLast? = some .dots)) ∧
    ∀ (line : Line T) (config : Config) (opened : Session T), connect line config = .ok opened →
      ∀ (operations : List (Operation T)) (operation : Operation T),
        let s := (opened.run operations).2
        let t := (s.perform operation).2
        t.keyboard.mode ≠ s.keyboard.mode →
          (s.perform operation).1 = .polled none ∧ Unnamed s.model (s.events operation) ∧
            ∃ elapsed, operation = .poll elapsed ∧ s.SwitchesMode elapsed t.keyboard.mode := by
  refine ⟨?_, ?_, ?_⟩
  · intro keyset chord mode
    refine ⟨Keyset.switches_of_mode, ?_, fun command => Keyset.mode_of_resolve⟩
    rintro target rfl
    exact keyset.resolve_modeChord target mode
  · intro model keyset panel calls
    rw [Keyboard.mode_replay panel]
    cases ((Keyboard.chordsIn model [] calls).filterMap keyset.switch?).getLast? <;> simp
  · intro line config opened h operations operation s t changed
    have fits := (run_path opened operations []).fits (fits_of_connect h)
    cases polled : operation.elapsed? with
    | none => exact absurd (s.mode_unpolled polled) changed
    | some elapsed =>
      cases operation with
      | poll elapsed =>
        obtain ⟨gives, unnamed, switches⟩ := switches_poll fits.supported changed
        exact ⟨congrArg Outcome.polled gives, unnamed, elapsed, rfl, switches⟩
      | write | setContext | device => cases polled

end Session

end BrailleDisplay
