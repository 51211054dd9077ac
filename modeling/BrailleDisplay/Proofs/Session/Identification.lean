import BrailleDisplay.Proofs.Session.Delivery
import BrailleDisplay.Proofs.Session.Loss
import BrailleDisplay.Proofs.Session.Typing

/-!
# Only an identified display is served

Once the link was lost it is up again only after the display has announced itself and named the
identifier of the model, and between the two the link does nothing but wait for the identifier.
Until then no frame goes out and the keys are not listened to. `IdentityMove` says what each step
does to this; the history tells whether the display is identified.
-/
namespace BrailleDisplay

/-- Noted while the display is identified. -/
def Event.connected (event : Event) : Bool := event.state?.any (·.isConnected)

/-- Noted while the display is not identified. -/
def Event.apart (event : Event) : Bool := event.state?.any (!·.isConnected)

/-- A call that ends the wait for the identifier: a write, a read that fails, or a fault report
that is confirmed. -/
def Event.interrupts : Event → Bool
  | .called ⟨_, .write _ _⟩ | .called ⟨_, .read _ _ none⟩ | .called ⟨_, .await _ false⟩ => true
  | _ => false

/-- The display has announced itself, and since then the link has waited for the identifier. -/
def Announced (events : List Event) : Prop :=
  ∃ before state announce waiting, events = before ++ announce :: waiting ∧
    announce.heard? = some (state, Signal.announce) ∧
    ∀ event ∈ waiting, event.During .identifying ∧ event.interrupts = false

/-- The display has announced itself and then named the identifier of the model, and the link has
not been lost since. -/
def Reidentified (model : Model) (events : List Event) : Prop :=
  ∃ before named since, events = before ++ named :: since ∧ Announced before ∧
    named.Identifies model ∧ ∀ event ∈ since, event.apart = false

/-- The display is identified: the link was never lost, or the display has identified itself. -/
def Trusted (model : Model) (events : List Event) : Prop :=
  (∀ event ∈ events, event.apart = false) ∨ Reidentified model events

/-- The link is up only if the display is identified, and frames are written only then. -/
def ServesTrusted (model : Model) (before : List Event) (event : Event) : Prop :=
  (event.connected = true → Trusted model before) ∧
    (event.frame?.isSome = true → event.connected = true)

theorem Event.During.connected {event : Event} {state : LinkState} (h : event.During state)
    (connected : event.connected = true) : state.isConnected = true := by
  cases event with
  | shown => cases connected
  | polled _ link => cases h; exact connected
  | called entry => cases h; exact connected

theorem Event.During.not_apart {event : Event} {state : LinkState} (h : event.During state)
    (connected : state.isConnected = true) : event.apart = false := by
  cases event with
  | shown => rfl
  | polled _ link => cases h; exact congrArg not connected
  | called entry => cases h; exact congrArg not connected

theorem Trusted.extend {model : Model} {events more : List Event} (h : Trusted model events)
    (kept : ∀ event ∈ more, event.apart = false) : Trusted model (events ++ more) := by
  rcases h with never | ⟨before, named, since, rfl, announced, identifies, up⟩
  · exact .inl (List.forall_mem_append.mpr ⟨never, kept⟩)
  · refine .inr ⟨before, named, since ++ more, ?_, announced, identifies, ?_⟩
    · rw [List.append_assoc, List.cons_append]
    · exact List.forall_mem_append.mpr ⟨up, kept⟩

theorem Announced.extend {events more : List Event} (h : Announced events)
    (waits : ∀ event ∈ more, event.During .identifying ∧ event.interrupts = false) :
    Announced (events ++ more) := by
  obtain ⟨before, state, announce, waiting, rfl, read, waited⟩ := h
  refine ⟨before, state, announce, waiting ++ more, ?_, read, ?_⟩
  · rw [List.append_assoc, List.cons_append]
  · exact List.forall_mem_append.mpr ⟨waited, waits⟩

/-! ## Steps -/

variable {T : Type}

/-- What a step that adds these events does to a display's being identified. -/
inductive IdentityMove (x y : Execution T) (events : List Event) : Prop where
  | announced (state : y.state = .identifying) (announce : Event) (only : events = [announce])
      (read : announce.heard? = some (x.state, Signal.announce))
      (keyboard : y.session.keyboard = x.session.keyboard)
  | identified (awaited : x.state = .identifying) (state : y.state = .ready) (named : Event)
      (only : events = [named]) (identifies : named.Identifies x.session.model)
      (keyboard : y.session.keyboard = x.session.keyboard.clear)
  | other (connected : y.state.isConnected = true → x.state.isConnected = true)
      (waits : y.state = .identifying →
        x.state = .identifying ∧ ∀ event ∈ events, event.interrupts = false)
      (keyboard : x.state.isConnected = false → y.session.keyboard = x.session.keyboard)

/-- Hearing a byte neither writes nor interrupts anything. -/
theorem calm_hear (x : Execution T) (byte : UInt8) (transport : T) (later : Option T) :
    ∃ events, (x.hear byte transport later).history = x.history ++ events ∧
      ∀ event ∈ events, event.During x.state ∧ event.frame? = none ∧ event.interrupts = false := by
  obtain ⟨awaits, history, waited⟩ := x.history_hear byte transport later
  refine ⟨_, history, ?_⟩
  intro event h
  rcases List.mem_cons.mp h with rfl | h
  · exact ⟨rfl, rfl, rfl⟩
  · obtain ⟨timeout, rfl⟩ := waited event h
    exact ⟨rfl, rfl, rfl⟩

theorem Execution.FrameDue.connected {x : Execution T} (due : x.FrameDue) :
    x.state.isConnected = true := by
  rcases due.state_eq with state | state <;> rw [state] <;> rfl

theorem Step.identity_move {x y : Execution T} (step : Step x y) (fits : x.session.Fits) :
    ∃ events, y.history = x.history ++ events ∧ (∀ event ∈ events, event.During x.state ∧
        (event.frame?.isSome = true → event.connected = true)) ∧ IdentityMove x y events := by
  have fault := (Model.identifier_of_mem fits.supported).2
  -- Most steps do not bring the display nearer to being identified.
  have staying (state : y.state = x.state) (keyboard : y.session.keyboard = x.session.keyboard)
      {events : List Event} (harmless : ∀ event ∈ events, event.interrupts = false) :
      IdentityMove x y events :=
    .other (state ▸ id) (fun waits => ⟨state ▸ waits, harmless⟩) fun _ => keyboard
  have serving (connected : x.state.isConnected = true) (still : y.state.isConnected = true)
      {events : List Event} : IdentityMove x y events := by
    refine .other (fun _ => connected) ?_ ?_
    · intro waits
      rw [waits] at still
      cases still
    · intro apart
      rw [connected] at apart
      cases apart
  have losing (state : y.state = .off ∨ y.state = .resetting) {events : List Event}
      (keyboard : y.session.keyboard = x.session.keyboard) : IdentityMove x y events := by
    refine .other ?_ ?_ fun _ => keyboard
    · rcases state with state | state <;> rw [state] <;> nofun
    · rcases state with state | state <;> rw [state] <;> nofun
  have once (event : Event) (during : event.During x.state)
      (frame : event.frame?.isSome = true → event.connected = true) :
      ∀ e ∈ [event], e.During x.state ∧ (e.frame?.isSome = true → e.connected = true) :=
    List.forall_mem_singleton.mpr ⟨during, frame⟩
  have hearing (byte : UInt8) (transport : T) (later : Option T)
      (history : y.history = (x.hear byte transport later).history)
      (move : ∀ {events : List Event}, (∀ event ∈ events, event.interrupts = false) →
        IdentityMove x y events) :
      ∃ events, y.history = x.history ++ events ∧ (∀ event ∈ events, event.During x.state ∧
        (event.frame?.isSome = true → event.connected = true)) ∧ IdentityMove x y events := by
    obtain ⟨events, heard, calm⟩ := calm_hear x byte transport later
    refine ⟨events, history.trans heard, ?_, move fun event inside => (calm event inside).2.2⟩
    intro event inside
    refine ⟨(calm event inside).1, ?_⟩
    simp [(calm event inside).2.1]
  cases step
  case poll elapsed =>
    exact ⟨_, rfl, once _ rfl nofun, staying rfl rfl (by simp [Event.interrupts])⟩
  case accept area cells image written =>
    exact ⟨_, rfl, once _ trivial nofun, staying rfl rfl (by simp [Event.interrupts])⟩
  case aside | refuse => exact ⟨[], (List.append_nil _).symm, nofun, staying rfl rfl nofun⟩
  case repeatChord connected =>
    exact ⟨[], (List.append_nil _).symm, nofun, serving connected connected⟩
  case readFails => exact ⟨_, rfl, once _ rfl nofun, losing (.inl (by simp)) rfl⟩
  case readNothing =>
    exact ⟨_, rfl, once _ rfl nofun, staying rfl rfl (by simp [Event.interrupts])⟩
  case fault first second up =>
    have off : (x.session.link.apply .disconnected).state = .off := by
      rw [Link.apply_disconnected up, Link.state_enter]
    exact ⟨[_, _], List.append_assoc _ [_] [_],
      List.forall_mem_cons.mpr ⟨⟨rfl, nofun⟩, once _ rfl nofun⟩, losing (.inl off) rfl⟩
  case announce transport =>
    exact ⟨_, rfl, once _ rfl nofun, .announced (by simp) _ rfl rfl rfl⟩
  case identify transport later awaits awaited _ =>
    obtain rfl := awaits.eq_none fault
    have ready : (x.session.link.apply .identified).state = .ready := by
      rw [Link.apply_identified awaited, Link.state_enter]
    exact ⟨_, rfl, once _ rfl nofun, .identified awaited ready _ rfl
      (congrArg (fun state => some (state, x.session.model.identifier)) awaited) rfl⟩
  case acknowledge transport writing | acknowledgeMore transport writing =>
    have ready : (x.session.link.apply .acknowledged).state = .ready := by
      rw [Link.apply_acknowledged writing, Link.state_enter]
    exact ⟨_, rfl, once _ rfl nofun,
      serving (by rw [writing]; rfl) (congrArg LinkState.isConnected ready)⟩
  case key transport byte later _ connected _ _ =>
    have link : ((x.hear byte transport later).session.hearKey byte).2.link = x.session.link :=
      x.link_hear byte transport later
    exact hearing byte transport later rfl fun _ =>
      serving connected (congrArg (·.state.isConnected) link |>.trans connected)
  case ignore transport byte later _ _ _ _ =>
    exact hearing byte transport later rfl
      (staying (congrArg Link.state (x.link_hear _ _ _)) (x.keyboard_hear _ _ _))
  case frame transport frame due built =>
    have writing : (x.session.link.apply .frameSent).state = .writing := by
      rw [Link.apply_frameSent due.state_eq, Link.state_enter]
    exact ⟨_, rfl, once _ rfl fun _ => due.connected,
      serving due.connected (congrArg LinkState.isConnected writing)⟩
  case frameFails transport frame accepted due built cut =>
    exact ⟨_, rfl, once _ rfl fun _ => due.connected, losing (.inl (by simp)) rfl⟩
  case probe transport due =>
    have resetting : (x.session.link.apply .probed).state = .resetting := by
      rw [Link.apply_probed due.state_eq, Link.state_enter]
    exact ⟨_, rfl, once _ rfl (by simp [Event.frame?]), losing (.inr resetting) rfl⟩
  case probeFails =>
    exact ⟨_, rfl, once _ rfl (by simp [Event.frame?]), losing (.inl (by simp)) rfl⟩
  case giveUp => exact ⟨[], (List.append_nil _).symm, nofun, losing (.inl (by simp)) rfl⟩

/-- What the history of an execution says about the display. -/
structure Vouched (x : Execution T) : Prop where
  fits : x.session.Fits
  serves : Throughout (ServesTrusted x.session.model) x.history
  connected : x.state.isConnected = true → Trusted x.session.model x.history
  waits : x.state = .identifying → Announced x.history

theorem Vouched.step {x y : Execution T} (step : Step x y) (h : Vouched x) : Vouched y := by
  obtain ⟨events, history, during, move⟩ := step.identity_move h.fits
  have model := step.model_eq
  have unlost (connected : x.state.isConnected = true) {more : List Event}
      (inside : ∀ event ∈ more, event ∈ events) : Trusted x.session.model (x.history ++ more) :=
    (h.connected connected).extend fun event found =>
      (during event (inside event found)).1.not_apart connected
  refine ⟨step.fits h.fits, ?_, ?_, ?_⟩
  · rw [model, history]
    refine h.serves.extend ?_
    rintro between event after rfl
    obtain ⟨noted, framed⟩ := during event (by simp)
    refine ⟨fun connected => unlost (noted.connected connected) ?_, framed⟩
    intro other inside
    exact List.mem_append_left _ inside
  · intro connected
    rw [model, history]
    cases move with
    | announced state =>
      rw [state] at connected
      cases connected
    | identified awaited state named only identifies =>
      subst only
      exact .inr ⟨x.history, named, [], rfl, h.waits awaited, identifies, nofun⟩
    | other still => exact unlost (still connected) fun _ inside => inside
  · intro waits
    rw [history]
    cases move with
    | announced _ announce only read => exact ⟨x.history, _, announce, [], only ▸ rfl, read, nofun⟩
    | identified _ state =>
      rw [state] at waits
      cases waits
    | other _ still =>
      obtain ⟨waiting, harmless⟩ := still waits
      refine (h.waits waiting).extend ?_
      intro event inside
      exact ⟨waiting ▸ (during event inside).1, harmless event inside⟩

/-! ## While the display is not identified -/

/-- The display does not name the identifier of the model. -/
def Unnamed (model : Model) (events : List Event) : Prop :=
  ∀ event ∈ events, ¬ event.Identifies model

instance (model : Model) (events : List Event) : Decidable (Unnamed model events) :=
  inferInstanceAs
    (Decidable (∀ event ∈ events, event.heard? ≠ some (.identifying, model.identifier)))

theorem unnamed_append {model : Model} {before after : List Event} :
    Unnamed model (before ++ after) ↔ Unnamed model before ∧ Unnamed model after :=
  List.forall_mem_append

theorem Step.stays_apart {x y : Execution T} (step : Step x y) (fits : x.session.Fits)
    (apart : x.state.isConnected = false) (unnamed : Unnamed x.session.model y.history) :
    y.state.isConnected = false ∧ y.session.keyboard = x.session.keyboard := by
  obtain ⟨events, history, _, move⟩ := step.identity_move fits
  cases move with
  | announced state _ _ _ keyboard =>
    rw [state]
    exact ⟨rfl, keyboard⟩
  | identified _ _ named only identifies =>
    rw [history, only] at unnamed
    exact absurd identifies (unnamed named (by simp))
  | other connected _ keyboard =>
    exact ⟨Bool.eq_false_iff.mpr (mt connected (Bool.eq_false_iff.mp apart)), keyboard apart⟩

theorem Path.stays_apart {x y : Execution T} (path : Path x y) (fits : x.session.Fits)
    (apart : x.state.isConnected = false) (unnamed : Unnamed x.session.model y.history) :
    y.state.isConnected = false ∧ y.session.keyboard = x.session.keyboard := by
  induction path with
  | refl => exact ⟨apart, rfl⟩
  | @tail y z path last ih =>
    have path : Path x y := path
    obtain ⟨events, grown⟩ := last.grows
    have earlier : Unnamed x.session.model y.history := by
      rw [grown] at unnamed
      exact (unnamed_append.mp unnamed).1
    obtain ⟨still, same⟩ := ih earlier
    obtain ⟨apart', keyboard⟩ := last.stays_apart (path.fits fits) still (path.model_eq ▸ unnamed)
    exact ⟨apart', keyboard.trans same⟩

namespace Session

/-- A byte that is no announcement is ignored, unless it is the identifier that is awaited. -/
theorem hearInState_apart {s : Session T} (apart : s.link.state.isConnected = false)
    (byte : UInt8) :
    (∀ command, (s.hearInState byte).1 ≠ .key command) ∧
      ((s.hearInState byte).2 = s ∨
        (s.link.state = .identifying ∧ byte = s.model.identifier) ∧
          (s.hearInState byte).2.link.state = .ready ∧
          (s.hearInState byte).2.keyboard = s.keyboard.clear) := by
  cases heard : s.hearInState byte with
  | mk reaction t =>
    cases treats_of_hearInState heard with
    | ignored _ _ unkeyed => exact ⟨unkeyed, .inl rfl⟩
    | identified state named =>
      refine ⟨nofun, .inr ⟨⟨state, named⟩, ?_, rfl⟩⟩
      exact congrArg Link.state (Link.apply_identified state)
    | acknowledged state | acknowledgedMore state => simp [state, LinkState.isConnected] at apart
    | keyed connected => simp [connected] at apart

theorem Hearing.apart {s t : Session T} {byte : UInt8} {reaction : Reaction} {calls : List Entry}
    (h : s.Hearing byte reaction t calls) (apart : s.link.state.isConnected = false)
    (unnamed : Unnamed s.model (calls.map .called)) :
    (∀ command, reaction ≠ .key command) ∧ t.link.state.isConnected = false ∧
      t.model = s.model := by
  have read : ¬ Event.Identifies s.model (.called (s.readEntry byte)) := by
    refine unnamed _ (List.mem_map_of_mem ?_)
    cases h <;> exact List.mem_cons_self
  have ignored {u : Session T} (heard : u.hearInState byte = (reaction, t))
      (link : u.link = s.link) (model : u.model = s.model) :
      (∀ command, reaction ≠ .key command) ∧ t.link.state.isConnected = false ∧
        t.model = s.model := by
    obtain ⟨unkeyed, same | ⟨⟨awaited, named⟩, _⟩⟩ := hearInState_apart (link ▸ apart) byte
    · rw [heard] at unkeyed same
      subst same
      exact ⟨unkeyed, link ▸ apart, model⟩
    · refine absurd ?_ read
      rw [Event.Identifies, ← model, ← named, ← awaited, link]
      rfl
  cases h with
  | confirmed first second fault up =>
    exact ⟨by simp, congrArg (·.state.isConnected) (Link.apply_disconnected up), rfl⟩
  | cancelled first second fault up heard => exact ignored heard rfl rfl
  | announced transport announce => exact ⟨by simp, by simp [LinkState.isConnected], rfl⟩
  | plain transport _ _ heard => exact ignored heard rfl rfl

theorem Reading.dry {s t : Session T} {heard : Bool} {outcome : Drained} {calls : List Entry}
    (h : s.Reading heard outcome t calls) (apart : s.link.state.isConnected = false)
    (unnamed : Unnamed s.model (calls.map .called)) : ∃ any, outcome = .dry any := by
  induction h with
  | failed s heard | nothing s heard => exact ⟨heard, rfl⟩
  | key heard hearing => exact absurd rfl ((hearing.apart apart unnamed).1 _)
  | other heard hearing unkeyed later ih =>
    rw [List.map_append, unnamed_append] at unnamed
    obtain ⟨_, still, model⟩ := hearing.apart apart unnamed.1
    exact ih still (model ▸ unnamed.2)

variable [Transport T]

/-- A session that takes nothing from the keys: no byte gives a command, and the keyboard is left
alone, except that the identifier of the model clears it. -/
structure Deaf (s : Session T) : Prop where
  hears : ∀ byte command, (s.hear byte).1 ≠ .key command
  named : ∀ byte, (s.hear byte).2.link.state.isConnected = true →
    s.link.state = .identifying ∧ byte = s.model.identifier
  keyboard : ∀ byte, (s.hear byte).2.keyboard =
    if (s.hear byte).2.link.state.isConnected then s.keyboard.clear else s.keyboard
  repeats : s.autorepeat.1 = none
  settles : s.recover.keyboard = s.keyboard ∧ s.flush.keyboard = s.keyboard ∧
    s.autorepeat.2.keyboard = s.keyboard

theorem hear_apart {s : Session T} (apart : s.link.state.isConnected = false) (byte : UInt8) :
    (∀ command, (s.hear byte).1 ≠ .key command) ∧
      ((s.hear byte).2.link.state.isConnected = false ∧
          (s.hear byte).2.keyboard = s.keyboard ∨
        (s.link.state = .identifying ∧ byte = s.model.identifier) ∧
          (s.hear byte).2.link.state = .ready ∧
          (s.hear byte).2.keyboard = s.keyboard.clear) := by
  have heard {u : Session T} (still : u.link.state.isConnected = false) :
      (∀ command, (u.hearInState byte).1 ≠ .key command) ∧
        ((u.hearInState byte).2.link.state.isConnected = false ∧
            (u.hearInState byte).2.keyboard = u.keyboard ∨
          (u.link.state = .identifying ∧ byte = u.model.identifier) ∧
            (u.hearInState byte).2.link.state = .ready ∧
            (u.hearInState byte).2.keyboard = u.keyboard.clear) := by
    obtain ⟨unkeyed, same | named⟩ := hearInState_apart still byte
    · exact ⟨unkeyed, .inl (same.symm ▸ ⟨still, rfl⟩)⟩
    · exact ⟨unkeyed, .inr named⟩
  unfold hear
  split
  · next act =>
    obtain ⟨more, transport, awaited⟩ := s.awaitMore_eq
    rw [awaited]
    cases more with
    | true => exact heard (u := s.after _ transport) apart
    | false =>
      exact ⟨nofun, .inl ⟨congrArg (·.state.isConnected) (Link.apply_disconnected act.2), rfl⟩⟩
  · split
    · exact ⟨nofun, .inl ⟨by simp [LinkState.isConnected], rfl⟩⟩
    · exact heard apart

theorem deaf_of_apart {s : Session T} (apart : s.link.state.isConnected = false) : s.Deaf where
  hears byte := (hear_apart apart byte).1
  named byte connected := by
    rcases (hear_apart apart byte).2 with ⟨still, _⟩ | ⟨named, _⟩
    · rw [still] at connected
      cases connected
    · exact named
  keyboard byte := by
    rcases (hear_apart apart byte).2 with ⟨still, same⟩ | ⟨_, ready, cleared⟩
    · rw [still, same]
      rfl
    · rw [ready, cleared]
      rfl
  repeats := (autorepeat_apart apart).1
  settles := ⟨congrArg Typing.keyboard s.typing_recover, congrArg Typing.keyboard s.typing_flush,
    (autorepeat_apart apart).2⟩

/-- A poll that reads no key event answers what repeating gives, which is nothing while the session
is not connected. -/
theorem poll_apart {s : Session T} {elapsed : UInt32}
    (unread : ∃ any, ((s.tick elapsed).drain false).1 = .dry any)
    (apart : (s.poll elapsed).2.link.state.isConnected = false) : (s.poll elapsed).1 = none := by
  obtain ⟨any, dry⟩ := unread
  have repeated {t : Session T} (still : t.autorepeat.2.link.state.isConnected = false) :
      t.autorepeat.1 = none := by
    rw [autorepeat_link] at still
    exact (autorepeat_apart still).1
  unfold poll at apart ⊢
  cases drained : (s.tick elapsed).drain false with
  | mk outcome t =>
    simp only [drained] at dry apart ⊢
    subst dry
    cases any with
    | true => exact repeated apart
    | false => exact repeated apart

/-- As long as the display is not identified and does not name its identifier, nothing gives a
command, and the keyboard stays as it is. -/
theorem perform_apart {s : Session T} (fits : s.Fits) (apart : s.link.state.isConnected = false)
    {operation : Operation T} (unnamed : Unnamed s.model (s.events operation)) :
    (∀ command, (s.perform operation).1 ≠ .polled (some command)) ∧
      (s.perform operation).2.link.state.isConnected = false ∧
      (s.perform operation).2.keyboard = s.keyboard := by
  have path := perform_path s operation []
  obtain ⟨still, keyboard⟩ := path.stays_apart fits apart unnamed
  refine ⟨?_, still, keyboard⟩
  intro command
  cases operation with
  | poll elapsed =>
    have reading := (s.tick elapsed).reading_drain false
    rw [events_poll] at unnamed
    have unread := reading.dry apart (unnamed_append.mp (List.forall_mem_cons.mp unnamed).2).1
    have none : (s.poll elapsed).1 = none := poll_apart unread still
    simp [perform, none]
  | write area cells => cases written : s.write area cells <;> simp [perform, written]
  | setContext | device => simp [perform]

theorem run_apart {s : Session T} (fits : s.Fits) (apart : s.link.state.isConnected = false)
    {operations : List (Operation T)} (unnamed : Unnamed s.model (s.history operations)) :
    (∀ outcome ∈ (s.run operations).1, ∀ command, outcome ≠ .polled (some command)) ∧
      (s.run operations).2.link.state.isConnected = false ∧
      (s.run operations).2.keyboard = s.keyboard := by
  induction operations generalizing s with
  | nil => exact ⟨nofun, apart, rfl⟩
  | cons operation operations ih =>
    obtain ⟨now, later⟩ := unnamed_append.mp unnamed
    have path := perform_path s operation []
    obtain ⟨unanswered, still, keyboard⟩ := perform_apart fits apart now
    have model : (s.perform operation).2.model = s.model := path.model_eq
    obtain ⟨rest, apart', same⟩ := ih (path.fits fits) still (model ▸ later)
    exact ⟨List.forall_mem_cons.mpr ⟨unanswered, rest⟩, apart', same.trans keyboard⟩

/-- An opened session serves its display, which has identified itself already. -/
theorem vouched_of_connect {line : Line T} {config : Config} {opened : Session T}
    (h : connect line config = .ok opened) : Vouched ⟨opened, []⟩ where
  fits := fits_of_connect h
  serves before event after split := by simp at split
  connected _ := .inl nofun
  waits waits := by
    have ready : opened.link = ⟨.ready, 0, 0⟩ := (connect_eq h).2.2.1
    simp [Execution.state, ready] at waits

/-- What the display's being identified means for a session. Whenever the link is up after it was
lost, the display has announced itself and named its identifier, with nothing but waiting between
the two; frames are written only while it is identified. While it is not, the keys give nothing,
and the keyboard is not touched until the identifier clears it. -/
theorem only_identified_displays_are_served {line : Line T} {config : Config} {opened : Session T}
    (h : connect line config = .ok opened) (before : List (Operation T)) :
    let session := (opened.run before).2
    let history := opened.history before
    Throughout (ServesTrusted opened.model) history ∧
    (session.link.state.isConnected = true → Trusted opened.model history) ∧
    (∀ session : Session T, session.link.state.isConnected = false → session.Deaf) ∧
    ∀ operations, session.link.state.isConnected = false →
      Unnamed opened.model (session.history operations) →
      (∀ outcome ∈ (session.run operations).1, ∀ command, outcome ≠ .polled (some command)) ∧
      (session.run operations).2.link.state.isConnected = false ∧
      (session.run operations).2.keyboard = session.keyboard := by
  intro session history
  have path := run_path opened before []
  have vouched := path.keeps Vouched.step (vouched_of_connect h)
  have model : session.model = opened.model := path.model_eq
  refine ⟨model ▸ vouched.serves, model ▸ vouched.connected, fun _ => deaf_of_apart, ?_⟩
  intro operations apart unnamed
  exact run_apart vouched.fits apart (model ▸ unnamed)

/-- A link that a fault report took down is deaf to a key, and up again after an announcement and
the identifier. -/
theorem only_identified_displays_are_served_again : ∃ opened : Session ScriptedTransport,
    connect ⟨{ replies := [[0xFE, 0xFE, 0x80]] }, []⟩ {} = .ok opened ∧
    let fault : List (Operation ScriptedTransport) := [.device (·.receive [0x06]), .poll 5]
    let key : List (Operation ScriptedTransport) := [.device (·.receive [0x01]), .poll 5]
    let named : List (Operation ScriptedTransport) := [.device (·.receive [0xFE, 0x80]), .poll 5]
    let lost := (opened.run fault).2
    (∀ outcome ∈ (lost.run key).1, ∀ command, outcome ≠ .polled (some command)) ∧
    (opened.run (fault ++ key ++ named)).2.link.state = .writing ∧
    Reidentified opened.model (opened.history (fault ++ key ++ named)) := by
  let fault : List (Operation ScriptedTransport) := [.device (·.receive [0x06]), .poll 5]
  let key : List (Operation ScriptedTransport) := [.device (·.receive [0x01]), .poll 5]
  let named : List (Operation ScriptedTransport) := [.device (·.receive [0xFE, 0x80]), .poll 5]
  obtain ⟨opened, connected⟩ := exists_connect (T := ScriptedTransport)
    ⟨{ replies := [[0xFE, 0xFE, 0x80]] }, []⟩ {} (by decide +kernel)
  have off : (opened.run fault).2.link.state = .off :=
    of_connect connected (fun s => (s.run fault).2.link.state) (by decide +kernel)
  have unnamed : decide (Unnamed opened.model ((opened.run fault).2.history key)) = true :=
    of_connect connected (fun s => decide (Unnamed s.model ((s.run fault).2.history key)))
      (by decide +kernel)
  have up : (opened.run (fault ++ key ++ named)).2.link.state = .writing :=
    of_connect connected (fun s => (s.run (fault ++ key ++ named)).2.link.state)
      (by decide +kernel)
  have lost : (opened.history (fault ++ key ++ named)).any Event.apart = true :=
    of_connect connected (fun s => (s.history (fault ++ key ++ named)).any Event.apart)
      (by decide +kernel)
  obtain ⟨_, _, _, deaf⟩ := only_identified_displays_are_served connected fault
  have unheard := (deaf key (by rw [off]; rfl) (of_decide_eq_true unnamed)).1
  obtain ⟨_, trusted, _⟩ :=
    only_identified_displays_are_served connected (fault ++ key ++ named)
  refine ⟨opened, connected, unheard, up, ?_⟩
  rcases trusted (by rw [up]; rfl) with never | reidentified
  · obtain ⟨event, inside, apart⟩ := List.any_eq_true.mp lost
    rw [never event inside] at apart
    cases apart
  · exact reidentified

end Session

end BrailleDisplay
