import BrailleDisplay.Proofs.Session.Opened
import BrailleDisplay.Proofs.Session.Unseen
import BrailleDisplay.Transport.Script

/-!
# The cut of the input into reads

A transport may hand over fewer bytes than it is asked for. A reply to a describe request is then
collected in several reads, each of which asks for what is still missing; the bytes are the same as
in one read. Polls ask for single bytes, so a bound on what one read gives never shows in them.
Hence opening and all that follows go the same way under every bound: but for the reads that collect
a reply, the same calls are made.
-/
namespace BrailleDisplay

/-- The bytes that a call hands over. -/
def Call.given : Call → List UInt8
  | .read _ _ (some bytes) => bytes
  | _ => []

def Call.isRead : Call → Bool
  | .read _ _ _ => true
  | _ => false

/-- The bytes that calls hand over, in order. -/
def givenIn (calls : List Entry) : List UInt8 := calls.flatMap (·.call.given)

/-- The calls other than reads. -/
def withoutReads (calls : List Entry) : List Entry := calls.filter (!·.call.isRead)

/-- Every call is a read, made while bytes are still missing, that asks for exactly these. -/
def Fetches (missing : Nat) (calls : List Entry) : Prop :=
  ∀ before entry after, calls = before ++ entry :: after →
    (givenIn before).length < missing ∧
    ∃ timeout bytes, entry.call = .read (missing - (givenIn before).length) timeout bytes

/-- Whatever the display does, it does as a script says. -/
def Operation.IsScripted : Operation ScriptedTransport → Prop
  | .device act => ∃ script : Script, act = (·.extend script)
  | _ => True

theorem withoutReads_append (calls more : List Entry) :
    withoutReads (calls ++ more) = withoutReads calls ++ withoutReads more :=
  List.filter_append _ _

theorem Fetches.withoutReads_eq_nil {missing : Nat} {calls : List Entry}
    (h : Fetches missing calls) : withoutReads calls = [] := by
  refine List.filter_eq_nil_iff.mpr fun entry inside => ?_
  obtain ⟨before, after, split⟩ := List.append_of_mem inside
  obtain ⟨_, timeout, bytes, read⟩ := h before entry after split
  simp [read, Call.isRead]

theorem fetches_nil (missing : Nat) : Fetches missing [] := by
  intro before entry after split
  simp at split

theorem Fetches.cons {missing : Nat} {entry : Entry} {calls : List Entry} {timeout : UInt32}
    {bytes : Option (List UInt8)} (later : Fetches (missing - entry.call.given.length) calls)
    (short : 0 < missing) (read : entry.call = .read missing timeout bytes) :
    Fetches missing (entry :: calls) := by
  rintro (_ | ⟨first, before⟩) next after split
  · cases split
    exact ⟨short, timeout, bytes, read⟩
  · obtain ⟨rfl, rfl⟩ := List.cons.inj split
    obtain ⟨short, timeout, bytes, asks⟩ := later before next after rfl
    have given : (givenIn (entry :: before)).length =
        entry.call.given.length + (givenIn before).length := by
      simp [givenIn]
    rw [given]
    refine ⟨by omega, timeout, bytes, ?_⟩
    rw [asks, Nat.sub_sub]

namespace ScriptedTransport

/-- The transport with another bound on what one read gives. -/
def rechunk (t : ScriptedTransport) (chunk : Nat) : ScriptedTransport := { t with chunk }

/-- The transport with other bytes waiting. -/
def withInput (t : ScriptedTransport) (incoming : List UInt8) : ScriptedTransport :=
  { t with incoming }

@[simp] theorem withInput_withInput (t : ScriptedTransport) (first second : List UInt8) :
    (t.withInput first).withInput second = t.withInput second := rfl

theorem readLimit_one (t : ScriptedTransport) : t.readLimit 1 = 1 := by
  unfold readLimit
  split <;> omega

theorem readLimit_pos (t : ScriptedTransport) {limit : Nat} (some : 0 < limit) :
    0 < t.readLimit limit := by
  unfold readLimit
  split <;> omega

theorem read_rechunk (t : ScriptedTransport) (chunk : Nat) :
    (t.rechunk chunk).read 1 = (t.read 1).map id (·.rechunk chunk) := by
  simp only [read, readLimit_one]
  cases fate : t.reads.head?.getD .fine <;> simp [rechunk, fate]

theorem answer_rechunk (t : ScriptedTransport) (chunk : Nat) (data : List UInt8)
    (accepted : Nat) :
    (t.rechunk chunk).answer data accepted = (t.answer data accepted).rechunk chunk := by
  unfold answer
  split <;> rfl

theorem write_rechunk (t : ScriptedTransport) (chunk : Nat) (data : List UInt8) :
    (t.rechunk chunk).write data = (t.write data).map id (·.rechunk chunk) := by
  have same : (t.rechunk chunk).writes = t.writes := rfl
  simp only [write, same]
  cases t.writes.head?.getD (some data.length) with
  | none => rfl
  | some accepted =>
    exact congrArg (Prod.mk (Except.ok accepted))
      (answer_rechunk { t with writes := t.writes.tail } chunk data accepted)

theorem await_rechunk (t : ScriptedTransport) (chunk : Nat) :
    (t.rechunk chunk).awaitReadable = t.awaitReadable.map id (·.rechunk chunk) := rfl

/-- Polls ask for single bytes, which no bound can cut. -/
theorem unseen_rechunk (chunk : Nat) : Unseen fun t : ScriptedTransport => t.rechunk chunk where
  read t _ := t.read_rechunk chunk
  write t := t.write_rechunk chunk
  await t _ := t.await_rechunk chunk

theorem reset_rechunk (t : ScriptedTransport) (chunk : Nat) :
    (t.rechunk chunk).reset = t.reset.map id (·.rechunk chunk) := by
  unfold reset
  cases fate : t.resets.head?.getD true <;> simp [rechunk, fate]

theorem extend_rechunk (t : ScriptedTransport) (chunk : Nat) (script : Script) :
    (t.rechunk chunk).extend script =
      (t.extend script).rechunk (script.chunk.getD chunk) := rfl

theorem reads_reset (t : ScriptedTransport) : t.reset.2.reads = t.reads := by
  unfold reset
  dsimp only
  split <;> rfl

theorem reads_write (t : ScriptedTransport) (data : List UInt8) :
    (t.write data).2.reads = t.reads := by
  unfold write answer
  dsimp only
  split
  · rfl
  · dsimp only
    split <;> rfl

/-- Where no read fails, bytes are given as far as the bound allows. -/
theorem read_unfaulted {t : ScriptedTransport} (unfaulted : t.reads = []) (limit : Nat) :
    t.read limit = (.ok (t.incoming.take (t.readLimit limit)),
      t.withInput (t.incoming.drop (t.readLimit limit))) := by
  simp [read, unfaulted, withInput]

end ScriptedTransport

/-! ## Collecting a reply -/

namespace Line

theorem journal_read {T : Type} [Transport T] {line rest : Line T} {state : LinkState}
    {limit : Nat} {timeout : UInt32} {answer : Except TransportFault (List UInt8)}
    (h : line.read state limit timeout = (answer, rest)) :
    rest.journal = line.journal ++ [⟨state, .read limit timeout answer.toOption⟩] := by
  obtain ⟨rfl, rfl⟩ := Prod.mk.inj h
  rfl

/-- On any transport, each read asks for what is missing, and the bytes read are the reply. -/
theorem collect_fetches {T : Type} [Transport T] (line : Line T) (state : LinkState)
    (timeout : UInt32) (missing : Nat) :
    ∃ calls, (line.collect state timeout missing).2.journal = line.journal ++ calls ∧
      Fetches missing calls ∧
      ∀ reply, (line.collect state timeout missing).1 = .ok reply → reply = givenIn calls := by
  fun_induction collect line state timeout missing with
  | case1 line =>
    refine ⟨[], (List.append_nil _).symm, fetches_nil 0, ?_⟩
    rintro _ ⟨⟩
    rfl
  | case2 line missing fault rest read =>
    have fetches : Fetches (missing + 1) [⟨state, .read (missing + 1) timeout none⟩] :=
      (fetches_nil _).cons (Nat.succ_pos _) rfl
    exact ⟨_, journal_read read, fetches, nofun⟩
  | case3 line missing rest read =>
    have fetches : Fetches (missing + 1) [⟨state, .read (missing + 1) timeout (some [])⟩] :=
      (fetches_nil _).cons (Nat.succ_pos _) rfl
    refine ⟨_, journal_read read, fetches, ?_⟩
    rintro _ ⟨⟩
    rfl
  | case4 line missing byte bytes rest read more stop collected ih =>
    obtain ⟨calls, journal, fetches, given⟩ := ih
    rw [collected] at journal given
    refine ⟨⟨state, .read (missing + 1) timeout (some (byte :: bytes))⟩ :: calls, ?_,
      .cons ?_ (Nat.succ_pos _) rfl, ?_⟩
    · rw [journal, journal_read read, List.append_assoc]
      rfl
    · simpa [Call.given, Except.toOption] using fetches
    · intro reply same
      cases more with
      | error fault => cases same
      | ok later =>
        cases same
        rw [given later rfl]
        rfl

/-- Where no read fails, a read takes bytes off the front of the input, at least one if any wait. -/
theorem read_unfaulted {line rest : Line ScriptedTransport} (unfaulted : line.transport.reads = [])
    {state : LinkState} {limit : Nat} {timeout : UInt32} (some : 0 < limit)
    {answer : Except TransportFault (List UInt8)}
    (h : line.read state limit timeout = (answer, rest)) :
    ∃ bytes, answer = .ok bytes ∧ line.transport.incoming = bytes ++ rest.transport.incoming ∧
      rest.transport = line.transport.withInput rest.transport.incoming ∧
      bytes.length ≤ limit ∧ (bytes = [] → line.transport.incoming = []) := by
  have given : Transport.read line.transport limit timeout = _ :=
    ScriptedTransport.read_unfaulted unfaulted limit
  have bound := line.transport.readLimit_le limit
  have wanted := line.transport.readLimit_pos some
  simp only [read, given, Prod.mk.injEq] at h
  obtain ⟨rfl, rfl⟩ := h
  refine ⟨_, rfl, (List.take_append_drop _ _).symm, rfl, ?_, ?_⟩
  · rw [List.length_take]
    omega
  · intro empty
    simpa [Nat.ne_of_gt wanted] using empty

/-- The reply is what waits at the front of the input, whatever the bound on one read. -/
theorem collect_unfaulted {line : Line ScriptedTransport} (unfaulted : line.transport.reads = [])
    (state : LinkState) (timeout : UInt32) (missing : Nat) :
    (line.collect state timeout missing).1 = .ok (line.transport.incoming.take missing) ∧
      (line.collect state timeout missing).2.transport =
        line.transport.withInput (line.transport.incoming.drop missing) := by
  fun_induction collect line state timeout missing with
  | case1 line => exact ⟨rfl, rfl⟩
  | case2 line missing fault rest read =>
    obtain ⟨_, failed, _⟩ := read_unfaulted unfaulted (Nat.succ_pos _) read
    cases failed
  | case3 line missing rest read =>
    obtain ⟨bytes, same, front, kept, _, empty⟩ := read_unfaulted unfaulted (Nat.succ_pos _) read
    cases same
    have nothing := empty rfl
    rw [nothing, List.nil_append] at front
    rw [kept, nothing, ← front]
    exact ⟨rfl, rfl⟩
  | case4 line missing byte bytes rest read more stop collected ih =>
    obtain ⟨_, same, front, kept, bound, _⟩ := read_unfaulted unfaulted (Nat.succ_pos _) read
    cases same
    have short : bytes.length ≤ missing := Nat.le_of_succ_le_succ bound
    obtain ⟨later, left⟩ := ih (by rw [kept]; exact unfaulted)
    rw [collected] at later left
    obtain rfl : more = _ := later
    have left : stop.transport = _ := left
    rw [front, left, kept]
    constructor
    · simp [Except.map, List.take_append, List.take_of_length_le short]
    · simp [List.drop_append, List.drop_of_length_le short]

/-! ## Opening -/

/-- The lines agree but for the bound on one read and for the reads that were made. -/
structure Agrees (line other : Line ScriptedTransport) : Prop where
  transport : ∃ chunk, other.transport = line.transport.rechunk chunk
  calls : withoutReads other.journal = withoutReads line.journal

/-- The lines agree, and on neither of them a read fails. -/
structure Paired (line other : Line ScriptedTransport) : Prop extends line.Agrees other where
  unfaulted : line.transport.reads = []

namespace Paired

variable {line other : Line ScriptedTransport}

theorem after (h : line.Paired other) (state : LinkState) (call : Call) {t : ScriptedTransport}
    (unfaulted : t.reads = []) (chunk : Nat) :
    (line.after state call t).Paired (other.after state call (t.rechunk chunk)) := by
  refine ⟨⟨⟨chunk, rfl⟩, ?_⟩, unfaulted⟩
  simp only [Line.after, withoutReads_append, h.calls]

/-- A call that does not look at the bound, and that makes no read fail, answers alike on both. -/
theorem call (h : line.Paired other) {α : Type} (state : LinkState)
    {make : ScriptedTransport → α × ScriptedTransport} (note : α → Call)
    (blind : ∀ t chunk, make (t.rechunk chunk) = (make t).map id (·.rechunk chunk))
    (keeps : ∀ t, (make t).2.reads = t.reads) :
    ∃ answer t t', make line.transport = (answer, t) ∧ make other.transport = (answer, t') ∧
      (line.after state (note answer) t).Paired (other.after state (note answer) t') := by
  obtain ⟨chunk, same⟩ := h.transport
  refine ⟨(make line.transport).1, (make line.transport).2, _, rfl, ?_, h.after state _ ?_ chunk⟩
  · rw [same, blind]
    rfl
  · rw [keeps, h.unfaulted]

theorem reset (h : line.Paired other) (state : LinkState) (settings : LineSettings) :
    ∃ answer line' other', line.reset state settings = (answer, line') ∧
      other.reset state settings = (answer, other') ∧ line'.Paired other' := by
  obtain ⟨answer, t, t', given, given', paired⟩ :=
    h.call state (fun answer => .reset settings answer.toOption.isSome)
      ScriptedTransport.reset_rechunk ScriptedTransport.reads_reset
  refine ⟨answer, _, _, ?_, ?_, paired⟩
  · simp only [Line.reset, Transport.reset, given]
  · simp only [Line.reset, Transport.reset, given']

theorem send (h : line.Paired other) (state : LinkState) (data : List UInt8) :
    ∃ sent line' other', line.send state data = (sent, line') ∧
      other.send state data = (sent, other') ∧ line'.Paired other' := by
  obtain ⟨answer, t, t', given, given', paired⟩ :=
    h.call state (fun answer => .write data answer.toOption)
      (fun t chunk => t.write_rechunk chunk data) (fun t => t.reads_write data)
  refine ⟨answer.toOption == some data.length, _, _, ?_, ?_, paired⟩
  · simp only [Line.send, Transport.write, given]
  · simp only [Line.send, Transport.write, given']

theorem await (h : line.Paired other) (state : LinkState) (timeout : UInt32) :
    ∃ readable line' other', line.await state timeout = (readable, line') ∧
      other.await state timeout = (readable, other') ∧ line'.Paired other' := by
  obtain ⟨readable, t, t', given, given', paired⟩ :=
    h.call state (.await timeout) (fun t chunk => t.await_rechunk chunk) (fun _ => rfl)
  refine ⟨readable, _, _, ?_, ?_, paired⟩
  · simp only [Line.await, Transport.awaitReadable, given]
  · simp only [Line.await, Transport.awaitReadable, given']

/-- Only the reads may differ. -/
theorem collect (h : line.Paired other) (state : LinkState) (timeout : UInt32) (missing : Nat) :
    ∃ reply line' other', line.collect state timeout missing = (.ok reply, line') ∧
      other.collect state timeout missing = (.ok reply, other') ∧ line'.Paired other' := by
  obtain ⟨chunk, same⟩ := h.transport
  have unfaulted : other.transport.reads = [] := by
    rw [same]
    exact h.unfaulted
  obtain ⟨reply, left⟩ := collect_unfaulted h.unfaulted state timeout missing
  obtain ⟨reply', left'⟩ := collect_unfaulted unfaulted state timeout missing
  obtain ⟨calls, journal, fetches, _⟩ := line.collect_fetches state timeout missing
  obtain ⟨calls', journal', fetches', _⟩ := other.collect_fetches state timeout missing
  refine ⟨_, _, _, Prod.ext reply rfl, Prod.ext (reply'.trans ?_) rfl, ⟨⟨chunk, ?_⟩, ?_⟩, ?_⟩
  · rw [same]
    rfl
  · rw [left, left', same]
    rfl
  · rw [journal, journal', withoutReads_append, withoutReads_append, fetches.withoutReads_eq_nil,
      fetches'.withoutReads_eq_nil, h.calls]
  · rw [left]
    exact h.unfaulted

theorem identify (h : line.Paired other) (config : Config) :
    ∃ named line' other', line.identify config = (named, line') ∧
      other.identify config = (named, other') ∧ line'.Paired other' := by
  obtain ⟨sent, line₁, other₁, asked, asked', paired⟩ := h.send .off [Signal.describe]
  rw [Line.identify, Line.identify, asked, asked']
  cases sent with
  | false => exact ⟨_, _, _, rfl, rfl, paired⟩
  | true =>
    obtain ⟨readable, line₂, other₂, waited, waited', paired⟩ :=
      paired.await .off config.identifyWait
    dsimp only
    rw [waited, waited']
    cases readable with
    | false => exact ⟨_, _, _, rfl, rfl, paired⟩
    | true =>
      obtain ⟨reply, line₃, other₃, collected, collected', paired⟩ :=
        paired.collect .off config.readTimeout replyLength
      dsimp only
      rw [collected, collected']
      exact ⟨_, _, _, rfl, rfl, paired⟩

theorem handshake (h : line.Paired other) (config : Config) (attempts : Nat) :
    ∃ answer line' other', line.handshake config attempts = (answer, line') ∧
      other.handshake config attempts = (answer, other') ∧ line'.Paired other' := by
  induction attempts generalizing line other with
  | zero => exact ⟨_, _, _, rfl, rfl, h⟩
  | succ attempts ih =>
    obtain ⟨answer, line₁, other₁, reset, reset', paired⟩ := h.reset .off config.serial
    rw [Line.handshake, Line.handshake, reset, reset']
    cases answer with
    | error fault => exact ⟨_, _, _, rfl, rfl, paired⟩
    | ok =>
      obtain ⟨named, line₂, other₂, identified, identified', paired⟩ := paired.identify config
      dsimp only
      rw [identified, identified']
      cases named with
      | some identifier => exact ⟨_, _, _, rfl, rfl, paired⟩
      | none => exact ih paired

end Paired

theorem agrees_vary (line : Line ScriptedTransport) {past past' : List Entry}
    (same : withoutReads past' = withoutReads past) (chunk : Nat) :
    (line.vary id past).Agrees (line.vary (·.rechunk chunk) past') := by
  refine ⟨⟨chunk, rfl⟩, ?_⟩
  simp only [vary, withoutReads_append, same]

end Line

namespace Session

/-- Opening comes to the same, on lines that agree. -/
inductive OpensAlike : Except (Refusal ScriptedTransport) (Session ScriptedTransport) →
    Except (Refusal ScriptedTransport) (Session ScriptedTransport) → Prop where
  | refused (error : OpenError) {line other : Line ScriptedTransport} (lines : line.Agrees other) :
      OpensAlike (.error ⟨error, line⟩) (.error ⟨error, other⟩)
  | opened (s : Session ScriptedTransport) {other : Line ScriptedTransport}
      (lines : s.line.Agrees other) : OpensAlike (.ok s) (.ok { s with line := other })

theorem start_line {T : Type} (line other : Line T) (config : Config) (identifier : UInt8) :
    start other config identifier =
      (start line config identifier).map ({ · with line := other }) := by
  unfold start
  split
  · rfl
  · split <;> rfl

theorem connect_alike {line other : Line ScriptedTransport} (paired : line.Paired other)
    (config : Config) : OpensAlike (connect line config) (connect other config) := by
  obtain ⟨answer, line', other', shaken, shaken', paired⟩ :=
    paired.handshake config config.attempts
  rw [connect, connect, shaken, shaken']
  cases answer with
  | error error => exact .refused error paired.toAgrees
  | ok identifier =>
    dsimp only
    rw [start_line line' other']
    cases started : start line' config identifier with
    | error error => exact .refused error paired.toAgrees
    | ok s =>
      have kept := start_line line' line' config identifier
      rw [started] at kept
      have line : s.line = line' := congrArg Session.line (Except.ok.inj kept)
      exact .opened s (line ▸ paired.toAgrees)

theorem alwaysUnseen_rechunk {operations : List (Operation ScriptedTransport)}
    (scripted : ∀ operation ∈ operations, operation.IsScripted) :
    AlwaysUnseen (fun change => ∃ chunk, change = (·.rechunk chunk)) operations where
  unseen := by
    rintro _ ⟨chunk, rfl⟩
    exact ScriptedTransport.unseen_rechunk chunk
  carried := by
    rintro _ ⟨chunk, rfl⟩ operation inside
    have acts := scripted operation inside
    cases operation with
    | poll | write | setContext => exact ⟨_, ⟨chunk, rfl⟩, rfl⟩
    | device act =>
      obtain ⟨script, rfl⟩ := acts
      exact ⟨_, ⟨script.chunk.getD chunk, rfl⟩, fun t => t.extend_rechunk chunk script⟩

/-- Whatever is done to two sessions that differ in their agreeing lines only, they show the same,
and their lines go on agreeing. -/
theorem run_agrees (s : Session ScriptedTransport) {other : Line ScriptedTransport}
    (lines : s.line.Agrees other) {operations : List (Operation ScriptedTransport)}
    (scripted : ∀ operation ∈ operations, operation.IsScripted) :
    let u := { s with line := other }
    u.glimpses operations = s.glimpses operations ∧
      (s.run operations).2.line.Agrees (u.run operations).2.line ∧
      (s.run operations).2.close.Agrees (u.run operations).2.close := by
  intro u
  obtain ⟨⟨chunk, same⟩, calls⟩ := lines
  let base := { s with line := ⟨s.line.transport, []⟩ }
  have idles : base.Idles s.countdown := .inl rfl
  have first : s = base.vary id s.line.journal s.countdown := by
    simp [base, vary, Line.vary]
  have second : u = base.vary (·.rechunk chunk) other.journal s.countdown := by
    simp [u, base, vary, Line.vary, ← same]
  obtain ⟨shown, _, _, rfl, ended⟩ :=
    run_vary (alwaysUnseen_id operations) rfl idles s.line.journal
  obtain ⟨shown', _, _, ⟨chunk', rfl⟩, ended'⟩ :=
    run_vary (alwaysUnseen_rechunk scripted) ⟨chunk, rfl⟩ idles other.journal
  rw [← first] at shown ended
  rw [← second] at shown' ended'
  refine ⟨shown'.trans shown.symm, ?_, ?_⟩
  · rw [ended, ended']
    exact Line.agrees_vary _ calls chunk'
  · rw [ended, ended', close_vary unseen_id, close_vary (ScriptedTransport.unseen_rechunk chunk')]
    exact Line.agrees_vary _ calls chunk'

/-- How the transport cuts the input into reads does not matter. On a scripted transport none of
whose reads is to fail, two bounds on one read lead to the same opening. Whatever the host and the
display then do, every operation answers alike, makes the same calls and leaves the same link state
and input mode. In all, but for reads the same calls are made, and the transports end alike but for
the bound. A reply is what waits at the front of the input under every bound, and each read asks for
exactly the bytes that are missing. -/
theorem chunking_does_not_show {t : ScriptedTransport} (unfaulted : t.reads = [])
    (past : List Entry) (config : Config) (first second : Nat) :
    let line : Line ScriptedTransport := ⟨t.rechunk first, past⟩
    let other : Line ScriptedTransport := ⟨t.rechunk second, past⟩
    OpensAlike (connect line config) (connect other config) ∧
    (∀ s u, connect line config = .ok s → connect other config = .ok u →
      ∀ operations : List (Operation ScriptedTransport),
        (∀ operation ∈ operations, operation.IsScripted) →
        u.glimpses operations = s.glimpses operations ∧
        (s.run operations).2.line.Agrees (u.run operations).2.line ∧
        (s.run operations).2.close.Agrees (u.run operations).2.close) ∧
    ∀ state timeout, ∃ calls rest,
      line.collect state timeout Line.replyLength =
        (.ok (t.incoming.take Line.replyLength), rest) ∧
      rest.transport.incoming = t.incoming.drop Line.replyLength ∧
      rest.journal = past ++ calls ∧ givenIn calls = t.incoming.take Line.replyLength ∧
      Fetches Line.replyLength calls := by
  intro line other
  have paired : line.Paired other := ⟨⟨⟨second, rfl⟩, rfl⟩, unfaulted⟩
  have alike := connect_alike paired config
  refine ⟨alike, ?_, ?_⟩
  · intro s u opened opened' operations scripted
    rw [opened, opened'] at alike
    cases alike with
    | opened _ lines => exact run_agrees s lines scripted
  · intro state timeout
    have fine : line.transport.reads = [] := unfaulted
    obtain ⟨reply, left⟩ := Line.collect_unfaulted fine state timeout Line.replyLength
    obtain ⟨calls, journal, fetches, given⟩ := line.collect_fetches state timeout Line.replyLength
    exact ⟨calls, _, Prod.ext reply rfl, congrArg (·.incoming) left, journal,
      (given _ reply).symm, fetches⟩

/-- The second attempt gets its reply byte by byte on one transport and in one read on the other. A
chord and a routing key are then heard, and a frame goes out that is not acknowledged. -/
theorem chunking_does_not_show_single : ∃ s u : Session ScriptedTransport,
    let t : ScriptedTransport := { replies := [[0xFE], [0xFE, 0xFE, 0x80]] }
    let operations : List (Operation ScriptedTransport) :=
      [.device (·.extend { incoming := [0x03, 0x83, 0x20] }), .poll 5, .write .main
        (List.replicate 20 3), .poll 900, .poll 900, .poll 900]
    t.reads = [] ∧ connect ⟨t.rechunk 1, []⟩ {} = .ok s ∧ connect ⟨t, []⟩ {} = .ok u ∧
    s.line.journal.length = 11 ∧ u.line.journal.length = 9 ∧
    (s.glimpses operations).length = 6 ∧ u.glimpses operations = s.glimpses operations := by
  let t : ScriptedTransport := { replies := [[0xFE], [0xFE, 0xFE, 0x80]] }
  let script : Script := { incoming := [0x03, 0x83, 0x20] }
  let later : List (Operation ScriptedTransport) :=
    [.poll 5, .write .main (List.replicate 20 3), .poll 900, .poll 900, .poll 900]
  obtain ⟨s, opened⟩ := exists_connect ⟨t.rechunk 1, []⟩ {} (by decide +kernel)
  obtain ⟨u, opened'⟩ := exists_connect ⟨t.rechunk 0, []⟩ {} (by decide +kernel)
  have singly : s.line.journal.length = 11 :=
    of_connect opened (·.line.journal.length) (by decide +kernel)
  have whole : u.line.journal.length = 9 :=
    of_connect opened' (·.line.journal.length) (by decide +kernel)
  have shown : (s.glimpses (.device (·.extend script) :: later)).length = 6 :=
    of_connect opened (fun s => (s.glimpses (.device (·.extend script) :: later)).length)
      (by decide +kernel)
  have scripted : ∀ operation ∈ .device (·.extend script) :: later, operation.IsScripted := by
    refine List.forall_mem_cons.mpr ⟨⟨script, rfl⟩, ?_⟩
    simp [later, Operation.IsScripted]
  have same := (chunking_does_not_show (t := t) rfl [] {} 1 0).2.1 s u opened opened' _ scripted
  exact ⟨s, u, rfl, opened, opened', singly, whole, shown, same.1⟩

end Session

end BrailleDisplay
