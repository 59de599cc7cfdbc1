import MultiDap.Actor.History

/-!
# The control lease and native trace

The control generation counts the changes of the lease, so a trace operation that finds at its end
the generation of its admission knows that its frontend has had the lease all the time in between:
giving it back and taking it again under the same name is two changes.
-/

namespace MultiDap.Actor

open Machine

namespace Runtime

variable {r r' : Runtime} {inputs : List Input}

lemma LeaseCounted.le (h : r.LeaseCounted r') : r.controlGeneration ≤ r'.controlGeneration := by
  rcases h with ⟨-, h⟩ | ⟨-, h⟩ <;> omega

lemma LeaseCounted.owner (h : r.LeaseCounted r')
    (hge : r'.controlGeneration = r.controlGeneration) :
    r'.models.reducer.leaseOwner = r.models.reducer.leaseOwner := by
  rcases h with ⟨h, -⟩ | ⟨-, h⟩
  · exact h
  · omega

lemma lease_run (hru : run step r inputs = some r') : r.controlGeneration ≤ r'.controlGeneration ∧
      (r'.controlGeneration = r.controlGeneration →
        r'.models.reducer.leaseOwner = r.models.reducer.leaseOwner) := by
  induction inputs generalizing r with
  | nil =>
    cases hru
    exact ⟨le_rfl, fun _ => rfl⟩
  | cons _ _ ih =>
    obtain ⟨u, hst, hrs⟩ := run_cons_eq_some.mp hru
    have hla := (advances_step hst).lease
    obtain ⟨hle, hon⟩ := ih hrs
    have hfir := hla.le
    refine ⟨hfir.trans hle, fun hge => ?_⟩
    rw [hon (by omega), hla.owner (by omega)]

lemma lease_between {opts : Options} {n k m : Nat} {u v w : Runtime}
    (hu : run step (new opts) (inputs.take n) = some u)
    (hw : run step (new opts) (inputs.take k) = some w) (hge : w.controlGeneration =
      u.controlGeneration) (hnm : n ≤ m) (hmk : m ≤ k)
    (hv : run step (new opts) (inputs.take m) = some v) :
    v.models.reducer.leaseOwner = u.models.reducer.leaseOwner ∧
      v.controlGeneration = u.controlGeneration := by
  obtain ⟨hle, hon⟩ := lease_run (run_between hnm hu hv)
  obtain ⟨hle', -⟩ := lease_run (run_between hmk hv hw)
  have hsm : v.controlGeneration = u.controlGeneration := by omega
  exact ⟨hon hsm, hsm⟩

/-- The lease is counted, and a trace request succeeds only if its frontend has held the lease from
the step that admitted it to the step that answers it. -/
theorem trace_success_uninterrupted {opts : Options} (hru : run step (new opts) inputs = some r) :
    (∀ m u i t, At step (new opts) inputs m u i t → u.LeaseCounted t) ∧
    ∀ a ∈ r.replies, a.err = none → a.answer.traced = true → ∃ n k owner request u b t told, n < k ∧
        inputs[n]? = some (.command (.trace owner request a.reply)) ∧
        At step (new opts) inputs k u (.completion b) t ∧ t.replies = u.replies ++ told ∧ a ∈ told ∧
        ∀ m v, n ≤ m → m ≤ k → run step (new opts) (inputs.take m) = some v →
          v.models.reducer.leaseOwner = owner ∧ v.controlGeneration = u.controlGeneration := by
  refine ⟨fun m u i t hat => (advances_step hat.after).lease, fun a ha hok htr => ?_⟩
  obtain ⟨k, u, i, t, told, hat, htold, hme, htel⟩ := (recorded hru).told a ha hok
  rcases htel with ⟨command, rfl, -, hfree⟩ |
    ⟨b, c, rest, inflight, value, rfl, hc, hin, -, hre, hcur, hsui⟩
  · simp [Answer.free, htr] at hfree
  -- the operation that has ended is the one that the trace request queued
  have hio := hsui.2 htr
  obtain ⟨n, u₀, command, t₀, hat₀, hac⟩ := (recorded hat.before).asked inflight.work
    (List.mem_append_left _ (by simp [hin])) fun h => by simp [hio] at h
  obtain ⟨hnk, hat₀⟩ := hat₀.take
  generalize inflight.work = work at hio hre hcur hac
  cases hac with
  | opens | cleanup => cases hio
  | unbound _ hunbound => simp [hunbound.2.1] at hio
  | inspection work _ _ _ hbou =>
    cases work <;> simp [Work.isolated] at hio
    cases hbou
  | trace owner request reply hcom hon hla =>
    obtain rfl : reply = a.reply := Option.some.inj hre
    have hge : u.controlGeneration = u₀.controlGeneration := by
      have hcur := hcur.2 _ _ _ _ _ rfl
      simp only [traceOwnerCurrent, Bool.and_eq_true, beq_iff_eq] at hcur
      exact hcur.1.2.symm
    refine ⟨n, k, owner, request, u, b, t, told, hnk, hcom ▸ hat₀.input, hat, htold, hme, ?_⟩
    intro m v hnm hmk hv
    obtain ⟨hon, hsm⟩ := lease_between hat₀.before hat.before hge hnm hmk hv
    exact ⟨hon.trans hla, hsm.trans hge.symm⟩

/-- A frontend takes the lease and opens a trace session. -/
def traceOpened : List Input :=
  bootstrap (stampedEvidence .stopped 1) ++
    [.command (.acquire "a" 1), .command (.trace "a" { op := .open } 2), .dispatch 4 .read,
      .dispatch 4 (.isolated (.ok (.trace {})) {}), .completion none]

theorem trace_success_uninterrupted_opened :
    ∃ r a, run step (new { trace := true }) traceOpened = some r ∧ a ∈ r.replies ∧ a.reply = 2 ∧
      a.err = none ∧ a.answer.traced = true ∧ ∃ n k owner request u b t told, n < k ∧
        traceOpened[n]? = some (.command (.trace owner request a.reply)) ∧
        At step (new { trace := true }) traceOpened k u (.completion b) t ∧
        t.replies = u.replies ++ told ∧ a ∈ told ∧
        ∀ m v, n ≤ m → m ≤ k → run step (new { trace := true }) (traceOpened.take m) = some v →
          v.models.reducer.leaseOwner = owner ∧ v.controlGeneration = u.controlGeneration := by
  obtain ⟨r, hru, hany⟩ : ∃ r, run step (new { trace := true }) traceOpened = some r ∧
      r.replies.any (fun a => decide (a.reply = 2) && a.err.isNone && a.answer.traced) = true :=
    exists_run (by decide +kernel)
  obtain ⟨a, ha, hsuc⟩ := List.any_eq_true.mp hany
  simp only [Bool.and_eq_true, decide_eq_true_eq, Option.isNone_iff_eq_none] at hsuc
  obtain ⟨⟨hre, hok⟩, htr⟩ := hsuc
  exact ⟨r, a, hru, ha, hre, hok, htr, (trace_success_uninterrupted hru).2 a ha hok htr⟩

/-- Before the session is open, at most one operation is queued or in flight; until the actor fails
closed, at most one besides the samples may be executed; the executor holds none of the trace. -/
theorem single_flight {opts : Options} (hru : run step (new opts) inputs = some r) :
    (r.opened = false → r.faulted = false → r.load ≤ 1) ∧
      (r.faulted = false → ∀ t t' work work', r.Active t work → r.Active t' work' →
        ¬(work.kind = .cores ∨ work.kind = .state) →
        ¬(work'.kind = .cores ∨ work'.kind = .state) → t = t' ∧ work = work') ∧
      (r.accepted.map Job.token).Nodup ∧ ∀ j ∈ r.accepted, j.work.isolated = false := by
  obtain ⟨hb, h⟩ := moves_invariant (fun _ _ _ => Traffic.move) (traffic_new opts)
    (Guard.admits_all _ _) hru
  refine ⟨hb.single, fun hlv t t' work work' hac hac' hne hne' => ?_, h.unique, h.bridged⟩
  -- the actor waits for both, and for one operation only
  obtain ⟨fl, hin, rfl⟩ := (h.waited hlv t work hac).resolve_left hne
  obtain ⟨fl', hin', rfl⟩ := (h.waited hlv t' work' hac').resolve_left hne'
  obtain rfl := Option.some.inj (hin.symm.trans hin')
  exact ⟨rfl, (h.same fl hin work hac).trans (h.same fl hin work' hac').symm⟩

def stackOptions : Options := { inspection := true, sourceMap := some fun _ => .ok {} }

/-- One stack is with the executor, and another one is queued. -/
def stackQueued : List Input :=
  bootstrap (stampedEvidence .stopped 1) ++
    [.command (.stack 1 ⟨0, 5⟩ 1), .dispatch 4 .read, .dispatch 4 (.submit none),
      .command (.stack 1 ⟨0, 5⟩ 2)]

theorem single_flight_queued : ∃ r, run step (new stackOptions) stackQueued = some r ∧
    r.faulted = false ∧ r.pending.length = 1 ∧ r.accepted.length = 1 ∧
    ∀ t t' work work', r.Active t work → r.Active t' work' →
      ¬(work.kind = .cores ∨ work.kind = .state) → ¬(work'.kind = .cores ∨ work'.kind = .state) →
      t = t' ∧ work = work' := by
  obtain ⟨r, hru, hlive, hpending, hacc⟩ : ∃ r, run step (new stackOptions) stackQueued = some r ∧
      r.faulted = false ∧ r.pending.length = 1 ∧ r.accepted.length = 1 :=
    exists_run (by decide +kernel)
  exact ⟨r, hru, hlive, hpending, hacc, (single_flight hru).2.1 hlive⟩

end Runtime

end MultiDap.Actor
