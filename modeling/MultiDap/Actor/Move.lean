import MultiDap.Actor.System
import MultiDap.Actor.Agreement
import MultiDap.Breakpoint.Flight

/-!
# What the system can do

Every step of the system is a sequence of primitive moves. A move changes the few fields that
belong together and records the facts of the code that justify the change; every invariant of the
system is proved move by move. A `Guard` is a condition on the moves that some result makes.
-/

namespace MultiDap.Actor

open Machine Inspection Stop Session Relation List Option

/-- Conditions on accepted samples, attachments, breakpoint requests and handle allocations. Of the
others, `queued` is about an accepted sample and the operations that are queued behind it,
`released` about a lease that is given back and the operations that are not submitted yet, and
`configured` and `inspected` about the end of the configuration barrier and the calls of an
inspection request, given whether the session has failed closed. `resolved` is about an answer to a
breakpoint operation. -/
structure Guard where
  sample : Models → StateEvidence → Prop := fun _ _ => True
  attach : Runtime → ControllerID → Prop := fun _ _ => True
  breakpoints : Runtime → ControllerID → Prop := fun _ _ => True
  allocate : Runtime → Prop := fun _ => True
  queued : List Work → Models → StateEvidence → Prop := fun _ _ _ => True
  released : List Work → Prop := fun _ => True
  configured : Bool → Prop := fun _ => True
  inspected : Bool → Prop := fun _ => True
  resolved : Runtime → Breakpoint.Reply → Prop := fun _ _ => True

/-- The frontend a breakpoint operation belongs to. -/
def Work.owner : Work → Option ControllerID
  | .breakpoints owner _ _ _ _ => some owner
  | .sourceResolution owner _ _ _ _ _ => some owner
  | _ => none

/-- The stop epoch of a request to the inspection service. -/
def Work.inspects : Work → Option UInt64
  | .inspection stop _ _ => some stop.stopEpoch
  | _ => none

/-- The frontend that asked for an execution operation. -/
def Work.requester : Work → Option ControllerID
  | .singleCoreExecution owner _ _ _ => some owner
  | .executionDomain owner _ _ _ => some owner
  | _ => none

/-- The stop epoch a cleanup was scheduled for. -/
def Work.cleansUp : Work → Option UInt64
  | .breakpointCleanup stopEpoch => some stopEpoch
  | _ => none

/-- The operation has not been handed to the executor yet. -/
def Phase.Unsubmitted : Phase → Prop
  | .waiting .. => False
  | _ => True

instance : DecidablePred Phase.Unsubmitted
  | .reading => .isTrue trivial
  | .submitting _ => .isTrue trivial
  | .waiting .. => .isFalse id

def Subscriber.offerAll (sub : Subscriber) (buffer : Nat) (events : List Event) : Subscriber :=
  events.foldl (fun sub event => sub.offer buffer event) sub

lemma Subscriber.offerAll_eq {sub : Subscriber} {buffer : Nat} {es : List Event}
    (h : (sub.offerAll buffer es).closed = false) : sub.closed = false ∧ sub.offerAll buffer es =
      { sub with
        events := sub.events ++ es.map fun e => { e with generation := sub.generation } } := by
  induction es generalizing sub with
  | nil => exact ⟨h, by simp [offerAll]⟩
  | cons e es ih =>
    obtain ⟨hop, heq⟩ := @ih (sub.offer buffer e) h
    have hsent : sub.closed = false ∧ sub.offer buffer e =
        { sub with events := sub.events ++ [{ e with generation := sub.generation }] } := by
      unfold Subscriber.offer at hop ⊢
      split_ifs at hop ⊢ with hcl hroom
      · cases hcl.symm.trans hop
      · exact ⟨by simpa using hcl, rfl⟩
    refine ⟨hsent.1, heq.trans ?_⟩
    rw [hsent.2]
    simp

lemma Subscriber.offerAll_owner (sub : Subscriber) (buffer : Nat) (es : List Event) :
    (sub.offerAll buffer es).owner = sub.owner := by
  induction es generalizing sub with
  | nil => rfl
  | cons e _ ih =>
    refine (ih (sub.offer buffer e)).trans ?_
    unfold Subscriber.offer
    split_ifs <;> rfl

lemma Subscriber.mem_offerAll {sub : Subscriber} {buffer : Nat} {es : List Event} {e : Event}
    (h : e ∈ (sub.offerAll buffer es).received ++ (sub.offerAll buffer es).events) :
    e ∈ sub.received ++ sub.events ∨
      sub.closed = false ∧ ∃ e₀ ∈ es, e = { e₀ with generation := sub.generation } := by
  induction es generalizing sub with
  | nil => exact .inl h
  | cons e₁ _ ih =>
    have hst := @ih (sub.offer buffer e₁) h
    unfold Subscriber.offer at hst
    split_ifs at hst with hcl hroom
    · rcases hst with hst | ⟨hop, -⟩
      · exact .inl hst
      · cases hcl.symm.trans hop
    · have hop : sub.closed = false := by simpa using hcl
      rcases hst with hst | ⟨-, e₀, he₀, heq⟩
      · simp only [mem_append, mem_singleton] at hst ⊢
        rcases hst with hold | hold | rfl
        · exact .inl (.inl hold)
        · exact .inl (.inr hold)
        · exact .inr ⟨hop, e₁, mem_cons_self, rfl⟩
      · exact .inr ⟨hop, e₀, mem_cons_of_mem e₁ he₀, heq⟩
    rcases hst with hst | ⟨hop, -⟩
    · exact .inl hst
    · cases hop

namespace Runtime

/-- The operations that are not submitted yet. -/
def waiting (r : Runtime) : List Work :=
  r.pending ++ (r.dispatchers.filter (·.phase.Unsubmitted)).map Dispatcher.work

/-- The epoch of the last cleanup that a detach asked for, or of the last other one. -/
def cleanupEpoch (r : Runtime) (immediate : Bool) : UInt64 :=
  if immediate then r.cleanupImmediateEpoch else r.cleanupNaturalEpoch

/-- Schedule a cleanup in the present stop. -/
def schedule (r : Runtime) (immediate : Bool) : Runtime :=
  let epoch := r.models.reducer.stopEpoch
  { r with
    cleanupNaturalEpoch := if immediate then r.cleanupNaturalEpoch else epoch
    cleanupImmediateEpoch := if immediate then epoch else r.cleanupImmediateEpoch
    scheduled := r.scheduled ++ [(immediate, epoch)] }.enqueue (.breakpointCleanup epoch)

def fed (r : Runtime) (evidence : StateEvidence) : Fed := r.models.feed r.resolver evidence

/-- An inspection request that is queued or in flight is stale. -/
def StaleInspection (r : Runtime) : Prop :=
  ∃ work epoch, work.inspects = some epoch ∧ r.sameStoppedEpoch epoch = false ∧
    (work ∈ r.pending ∨ ∃ inflight, r.inflight = some inflight ∧ inflight.work = work)

/-- What failing closed publishes, unless the reducer has already published it. -/
def announcement (r : Runtime) (cause : Error) : List Event :=
  if r.snapshot.state = .faulted then []
  else [{ kind := .reconciliationRequired, snapshot := r.snapshot, cause := some cause }]

def announce (r : Runtime) (cause : Error) : Runtime :=
  { r with
    subs := r.subs.map (·.offerAll r.opts.eventBuffer (r.announcement cause))
    published := r.published ++ r.announcement cause }

/-- The state event that `ConfigurationDone` publishes. -/
inductive Initial (r : Runtime) : Event → Prop where
  | replayed (effect : Effect) (hla : r.lastStop = some effect)
      (hep : effect.stopEpoch = r.models.reducer.stopEpoch)
      (hsa : r.models.reducer.state = .stopped) :
      Initial r (r.stoppedEvent effect r.snapshot)
  | bare (hla : ∀ effect, r.lastStop = some effect → effect.stopEpoch ≠ r.models.reducer.stopEpoch)
      (hsa : r.models.reducer.state = .stopped) :
      Initial r { kind := .stopped, snapshot := r.snapshot }
  | resumed (hsa : r.models.reducer.state = .running) : Initial r
        { kind := .resumed, snapshot := r.snapshot, threadID := r.representativeThread }

/-- When an operation other than a cleanup is queued. -/
structure Queues (G : Guard) (r : Runtime) (work : Work) : Prop where
  live : r.faulted = false
  ready : r.opened = true ∨ r.opening = true ∧ r.pending = [] ∧ r.inflight = none
  owner : ∀ owner, work.owner = some owner → G.breakpoints r owner ∧ r.opts.breakpointRunner = true
  current : ∀ epoch, work.inspects = some epoch → epoch = r.models.reducer.stopEpoch
  requester : ∀ owner, work.requester = some owner →
    owner ≠ "" ∧ r.models.reducer.leaseOwner = owner
  kept : work.cleansUp = none

/-- A completion that ends the operation in flight without failing the session closed. -/
def Settles (r : Runtime) (inflight : Inflight) (c : Completion) : Prop :=
  r.judge inflight c = .unsubmitted ∨
    (r.judge inflight c = .finished ∧ ∀ err, c.result = .error err →
      completionFailureIsTerminal err = true → inflight.work.kind = .cores ∨
        inflight.work.kind = .state) ∨
    inflight.work.isolated = true ∧ inflight.token = c.token

inductive Dispatched (r : Runtime) (d : Dispatcher) : Runtime → Prop where
  | read (generation : Nat) (hph : d.phase = .reading)
      (hexp : d.work.expectedGeneration ≠ 0 → r.executor.generation = d.work.expectedGeneration) :
      Dispatched r d (r.setPhase d.token (.submitting generation))
  /-- The operation is not submitted. -/
  | refuse (generation : Nat) (err : Error) (executor : Executor)
      (hph : d.phase = .reading ∨ ∃ generation, d.phase = .submitting generation)
      (hother : err.is .sourceUnavailable = false)
      (hexe : executor.generation = r.executor.generation ∧ executor.closed = r.executor.closed) :
      Dispatched r d (({ r with executor }.deliver
        ⟨d.token, generation, 0, false, .error err, {}⟩).endDispatch d.token)
  | submit (generation operation : Nat) (executor : Executor)
      (hph : d.phase = .submitting generation) (hwk : d.work.isolated = false)
      (hexe : executor.generation = r.executor.generation ∧ executor.closed = false ∧
        r.executor.closed = false) :
      Dispatched r d { ({ r with executor }.deliver
            ⟨d.token, generation, operation, true, .ok .nothing, {}⟩).setPhase d.token
              (.waiting generation operation none) with
          jobs := r.jobs ++ [⟨d.token, executor.generation, operation, d.work⟩] }
  | collect (generation operation : Nat) (finished : Finished)
      (hph : d.phase = .waiting generation operation (some finished)) :
      Dispatched r d ((r.deliver ⟨d.token, finished.generation, finished.operation, false,
        finished.result, {}⟩).endDispatch d.token)
  | expire (generation operation : Nat) (finished : Option Finished) (err : Error)
      (hph : d.phase = .waiting generation operation finished)
      (hrr : completionFailureIsTerminal err = true) (hother : err.is .sourceUnavailable = false) :
      Dispatched r d ((r.deliver
        ⟨d.token, generation, operation, false, .error err, {}⟩).endDispatch d.token)
  | isolated (generation : Nat) (result : Except Error Value) (failed : TraceResult)
      (hph : d.phase = .submitting generation) (hio : d.work.isolated = true) :
      Dispatched r d ((r.deliver
        ⟨d.token, generation, 0, false, result, failed⟩).endDispatch d.token)

lemma terminal_contextErr (ended : Sentinel) :
    completionFailureIsTerminal (contextErr ended) = true ∧
      (contextErr ended).is .sourceUnavailable = false := by
  unfold contextErr
  split_ifs <;> exact ⟨rfl, rfl⟩

lemma dispatched {r r' : Runtime} {d : Dispatcher} {turn : DispatchTurn}
    (h : r.dispatchTurn d turn = some r') : r.Dispatched d r' := by
  cases turn with
  | read =>
    simp only [dispatchTurn] at h
    split at h
    · rename_i hph
      split_ifs at h with hexp <;> cases h
      · exact .refuse _ _ r.executor (.inl hph) rfl ⟨rfl, rfl⟩
      · exact .read _ hph fun hne => by simpa [hne] using hexp
    · cases h
  | submit ended =>
    simp only [dispatchTurn] at h
    split at h
    · rename_i gen hph
      split_ifs at h with hwk
      cases h
      unfold Runtime.submit
      split_ifs with hcl
      · exact .refuse _ _ r.executor (.inr ⟨gen, hph⟩) rfl ⟨rfl, rfl⟩
      cases ended with
      | some ended =>
        exact .refuse _ _ _ (.inr ⟨gen, hph⟩) (terminal_contextErr ended).2 ⟨rfl, rfl⟩
      | none =>
        rw [Bool.not_eq_true] at hcl
        exact .submit gen _ _ hph (by simpa using hwk) ⟨rfl, hcl, hcl⟩
    · cases h
  | collect =>
    simp only [dispatchTurn] at h
    split at h
    · rename_i gen op finished hph
      cases h
      exact .collect gen op finished hph
    · cases h
  | expire ended =>
    simp only [dispatchTurn] at h
    split at h
    · rename_i gen op finished hph
      cases h
      exact .expire gen op finished _ hph (terminal_contextErr ended).1
        (terminal_contextErr ended).2
    · cases h
  | isolated res bad =>
    simp only [dispatchTurn] at h
    split at h
    · rename_i gen hph
      split_ifs at h with hio
      cases h
      exact .isolated gen res bad hph hio
    · cases h

inductive Worked (r : Runtime) : Runtime → Prop where
  | take (job : Job) (jobs : List Job) (hid : r.worker = none) (h : r.jobs = job :: jobs) :
      Worked r { r with jobs, worker := some ⟨job, job.work.task r.opts⟩ }
  | transact (job : Job) (program next : Breakpoint.Transact (Except Error Value))
      (world : Breakpoint.World) (reply : Breakpoint.Reply)
      (h : r.worker = some ⟨job, .transact program⟩)
      (hst : program.advance Breakpoint.World.env r.world reply = some (world, next)) :
      Worked r { r with world, worker := some ⟨job, .transact next⟩ }
  | inspect (job : Job)
      (program next : Prog (Handle.Ledger Payload) Query Query.Answer (Except Error Value))
      (ledger : Handle.Ledger Payload) (reply : Inspection.Reply)
      (h : r.worker = some ⟨job, .inspect program⟩)
      (hst : program.advance Inspection.env r.ledger reply = some (ledger, next)) :
      Worked r { r.withLedger ledger with worker := some ⟨job, .inspect next⟩ }
  | report (job : Job) (task : Task) (result : Except Error Value) (h : r.worker = some ⟨job, task⟩)
      (hen : task = .exchange ∧ (∀ value, result = .ok value → job.work.yields value = true) ∨
        task = .transact (.ret result) ∨ task = .inspect (.ret result)) :
      Worked r (r.report job result)

lemma worked {r r' : Runtime} {turn : WorkerTurn} (h : r.workerTurn turn = some r') :
    r.Worked r' := by
  cases turn with
  | take =>
    simp only [workerTurn] at h
    split at h
    · rename_i job jobs hid hjobs
      cases h
      exact .take job jobs hid hjobs
    · cases h
  | exchange res =>
    simp only [workerTurn] at h
    split at h
    · rename_i job hw
      cases res with
      | ok =>
        simp only at h
        split_ifs at h with hy
        cases h
        refine .report job .exchange _ hw (.inl ⟨rfl, ?_⟩)
        rintro _ ⟨⟩
        exact hy
      | error =>
        cases h
        exact .report job .exchange _ hw (.inl ⟨rfl, fun _ hv => by cases hv⟩)
    · cases h
  | transact rp =>
    simp only [workerTurn] at h
    split at h
    · rename_i job prog hw
      obtain ⟨⟨world, next⟩, hst, rfl⟩ := map_eq_some_iff.mp h
      exact .transact job prog next world rp hw hst
    · cases h
  | inspect rp =>
    simp only [workerTurn] at h
    split at h
    · rename_i job prog hw
      obtain ⟨⟨led, next⟩, hst, rfl⟩ := map_eq_some_iff.mp h
      exact .inspect job prog next led rp hw hst
    · cases h
  | finish =>
    simp only [workerTurn] at h
    split at h
    · rename_i job res hw
      cases h
      exact .report job _ res hw (.inr (.inl rfl))
    · rename_i job res hw
      cases h
      exact .report job _ res hw (.inr (.inr rfl))
    · cases h

inductive Move (G : Guard) (r : Runtime) : Runtime → Prop where
  /-- Changes of fields that only later calls of the same kind look at. -/
  | books (executor : Executor) (openSucceeded : Bool) (openGeneration controlGeneration : Nat)
      (console : Console) (replies : List Reply) (tracing : Tracing) :
      Move G r { r with
        executor, openSucceeded, openGeneration, controlGeneration, console, replies, tracing }
  /-- The configuration barrier and the control lease. -/
  | control (configuring : Bool) (leaseOwner : ControllerID)
      (hle : leaseOwner = r.models.reducer.leaseOwner ∨ r.models.reducer.leaseOwner = "" ∨
        G.released r.waiting) :
      Move G r (r.withReducer { r.models.reducer with configuring, leaseOwner })
  | release (event : Event) (h : r.Initial event) (hg : G.configured r.faulted) :
      Move G r (r.publish event)
  | hint (token : UInt32) :
      Move G r { r with models :=
        { r.models with stopper := (r.models.stopper.noteHint r.resolver token).1 } }
  | sample (evidence : StateEvidence) (hop : r.opened = true) (hlive : r.faulted = false)
      (hid : r.inflight = none) (hg : G.sample r.models evidence)
      (hq : G.queued r.pending r.models evidence) (hfe : (r.fed evidence).failure = none) :
      Move G r (r.absorb (r.fed evidence))
  /-- The sample that completes the bootstrap. -/
  | bootstrap (evidence : StateEvidence) (hope : r.opening = true) (hlive : r.faulted = false)
      (hid : r.inflight = none) (hg : G.sample r.models evidence)
      (hq : G.queued r.pending r.models evidence) (hfe : (r.fed evidence).failure = none) :
      Move G r { r.absorb (r.fed evidence) with opening := false, opened := true }
  | arbiterErr (evidence : StateEvidence) (err : Error) (hlive : r.faulted = false)
      (hid : r.inflight = none)
      (hfe : (r.fed evidence).failure = some (.arbiter err)) :
      Move G r { r with models := (r.fed evidence).models }
  /-- The reducer refuses the sample, and the session is still opening. -/
  | reducerErr (evidence : StateEvidence) (err : Error) (hope : r.opening = true)
      (hlive : r.faulted = false) (hid : r.inflight = none)
      (hfe : (r.fed evidence).failure = some (.reducer err)) :
      Move G r ({ r with models := (r.fed evidence).models }.applyReducerActions
        (r.fed evidence).actions (r.fed evidence).models.reducer.snapshot (some err))
  /-- Failing closed because the reducer refuses the sample. -/
  | reducerFault (evidence : StateEvidence) (err : Error) (hlive : r.faulted = false)
      (hid : r.inflight = none)
      (hfe : (r.fed evidence).failure = some (.reducer err)) :
      Move G r (({ r with models := (r.fed evidence).models }.applyReducerActions
        (r.fed evidence).actions (r.fed evidence).models.reducer.snapshot (some err)).fault
          .state err)
  /-- The models disagree, and the session is still opening. -/
  | clash (evidence : StateEvidence) (err : Error) (hope : r.opening = true)
      (hlive : r.faulted = false) (hid : r.inflight = none)
      (hfe : (r.fed evidence).failure = some (.disagreement err)) :
      Move G r { r with models := (r.fed evidence).models }
  /-- Failing closed, possibly because the models disagree. The actor waits for no operation, or
  for one that a completion is about. -/
  | fault (models : Models) (opening : Bool) (complete : List Completion) (operation : Operation)
      (cause : Error) (hlive : r.faulted = false)
      (hmod : models = r.models ∨ ∃ evidence err,
        (r.fed evidence).failure = some (.disagreement err) ∧ models = (r.fed evidence).models)
      (hope : opening = true → r.opening = true)
      (hcom : complete <:+ r.complete)
      (hen : ∀ inflight, r.inflight = some inflight → ∃ c ∈ r.complete, c.token = inflight.token) :
      Move G r (({ r with models, opening, complete, inflight := none }.fault operation
        cause).announce cause)
  | output (event : Event) (targets : List (Nat × Nat)) (h : event.kind = .output) :
      Move G r (r.publishTo event targets)
  | attach (owner : ControllerID) (hlive : r.faulted = false) (hg : G.attach r owner) :
      Move G r { r with
        nextSub := r.nextSub + 1
        subs := r.subs ++ [{ id := r.nextSub + 1, owner, generation := r.nextSub + 1 }] }
  | silence (p : Subscriber → Bool) : Move G r (r.closeSubs p)
  | withdraw (owner : ControllerID) (visit : Breakpoint.Visit Breakpoint.Logical) :
      Move G r { r with world := r.world.detach owner visit }
  | drop (h : r.faulted = true ∨ r.StaleInspection) : Move G r r.dropStopBound
  | allocate (kind : Handle.Kind) (core : Int) (value : Payload)
      (hsa : r.models.reducer.state = .stopped) (hg : G.allocate r) :
      Move G r (r.withLedger (r.ledger.alloc kind core r.models.reducer.stopEpoch value).1)
  | enqueue (work : Work) (h : r.Queues G work) : Move G r (r.enqueue work)
  | schedule (immediate : Bool) (hop : r.faulted = true ∨ r.opened = true)
      (hs : r.models.reducer.state = .stopped) (hru : r.opts.breakpointRunner = true)
      (hnew : r.cleanupEpoch immediate ≠ r.models.reducer.stopEpoch) :
      Move G r (r.schedule immediate)
  | pop (work : Work) (rest : List Work) (h : r.pending = work :: rest) :
      Move G r { r with pending := rest }
  | launch (work : Work) (rest : List Work) (hlive : r.faulted = false)
      (hid : r.inflight = none) (h : r.pending = work :: rest)
      (hbou : ∀ epoch, work.inspects = some epoch → r.sameStoppedEpoch epoch = true) :
      Move G r ({ r with pending := rest }.launch work)
  /-- A completion that belongs to no operation in flight. -/
  | ignore (c : Completion) (rest : List Completion) (h : r.complete = c :: rest)
      (hother : ∀ inflight, r.inflight = some inflight → inflight.token ≠ c.token) :
      Move G r { r with complete := rest }
  | acknowledge (inflight : Inflight) (c : Completion) (rest : List Completion)
      (h : r.complete = c :: rest) (hin : r.inflight = some inflight)
      (hv : r.judge inflight c = .admitted) :
      Move G r { r with
        complete := rest
        inflight := some { inflight with
          submitted := true, operation := c.operation, generation := c.generation } }
  | settle (inflight : Inflight) (c : Completion) (rest : List Completion)
      (h : r.complete = c :: rest) (hin : r.inflight = some inflight)
      (hs : r.Settles inflight c) : Move G r { r with complete := rest, inflight := none }
  | begin (h : r.faulted = false) (hopened : r.opened = false) (hope : r.opening = false) :
      Move G r { r with opening := true }
  /-- The bootstrap is over. -/
  | abandon (h : r.faulted = true ∨ r.pending = [] ∧ r.inflight = none) :
      Move G r { r with opening := false }
  | threads (threads : List Thread) : Move G r { r with threads }
  | close (h : r.closing = false) : Move G r
      { r with
        subs := r.subs.map Subscriber.close, ledger := r.ledger.dropStopBound, closing := true
        valid := [] }
  | dispatch (d : Dispatcher) (r' : Runtime) (hd : d ∈ r.dispatchers) (h : r.Dispatched d r') :
      Move G r r'
  | worker (r' : Runtime) (h : r.Worked r')
      (hg : ∀ job program reply, r.worker = some ⟨job, .inspect program⟩ →
        (program.advance Inspection.env r.ledger reply).isSome → G.inspected r.faulted)
      (hr : ∀ job program, r.worker = some ⟨job, .transact program⟩ →
        (∃ result, program = .ret result) ∨ ∃ world next reply,
          program.advance Breakpoint.World.env r.world reply = some (world, next) ∧
            r' = { r with world, worker := some ⟨job, .transact next⟩ } ∧ G.resolved r reply) :
      Move G r r'
  | receive (id : Nat) : Move G r (r.receive id)

abbrev Moves (G : Guard) : Runtime → Runtime → Prop := ReflTransGen (Move G)

end Runtime

end MultiDap.Actor
