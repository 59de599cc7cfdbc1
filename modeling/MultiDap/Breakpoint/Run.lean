import MultiDap.Breakpoint.Replacement
import MultiDap.Machine.Run

/-!
# Runs of the store

The store under a serial stream of transactions, with detach requests between any two steps. The
transaction lock admits one transaction at a time; the state lock makes its sections atomic.
-/

namespace MultiDap.Breakpoint

open Source Machine Prog World

/-- What runs under the transaction lock. -/
inductive Transaction where
  | replace (owner : Owner) (src : Identity) (lines cores : List Int)
  | cleanup

inductive Outcome where
  | replaced (result : Except Error ReplaceResult)
  | cleaned (result : CleanupResult)

def Transaction.program : Transaction → Transact Outcome
  | .replace owner src lines cores => do
    let result ← replaceForOwner owner src lines cores
    return .replaced result
  | .cleanup => do
    let result ← cleanupPending
    return .cleaned result

/-- A transaction that holds the lock. `start` is the world in which it began, which its program
does not see. -/
structure Job where
  transaction : Transaction
  start : World
  program : Transact Outcome

structure Config where
  world : World := {}
  job : Option Job := none

/-- What happens next. A `move` answers a call of the running transaction, or lets it take its
next locked section. -/
inductive Input where
  | detach (owner : Owner) (visit : Visit Logical)
  | begin (transaction : Transaction)
  | move (reply : Reply)
  | finish

namespace Config

def step (c : Config) : Input → Option Config
  | .detach owner visit => some { c with world := c.world.detach owner visit }
  | .begin transaction =>
    match c.job with
    | none => some { c with job := some ⟨transaction, c.world, transaction.program⟩ }
    | some _ => none
  | .move reply =>
    match c.job with
    | none => none
    | some job =>
      (job.program.advance World.env c.world reply).map fun next =>
        { world := next.1, job := some { job with program := next.2 } }
  | .finish =>
    match c.job with
    | some ⟨_, _, .ret _⟩ => some { c with job := none }
    | _ => none

/-- No transaction is between its beginning and its end. -/
def AtRest (c : Config) : Prop := ∀ job ∈ c.job, ∃ outcome, job.program = .ret outcome

end Config

/-! ### The invariant -/

/-- What a transaction that began in `start` leaves behind. -/
def Transaction.Post : Transaction → World → Outcome → World → Prop
  | .replace owner src lines cores, start, out, w =>
    ∃ result, out = .replaced result ∧ Finished owner src lines cores start result w
  | .cleanup, _, _, w => Settled w

/-- What each step of a transaction may do. -/
def Transaction.Guarantee : Transaction → World → World → Prop
  | .replace owner _ _ _ => Touches owner
  | .cleanup => Sweeps

variable {tx : Transaction} {w : World}

lemma Transaction.Guarantee.advances {w' : World} (h : tx.Guarantee w w') : w.Advances w' := by
  cases tx with
  | replace | cleanup => exact h.toAdvances

lemma Transaction.Post.settled {start : World} {out : Outcome}
    (h : tx.Post start out w) : Settled w := by
  cases tx with
  | replace =>
    obtain ⟨res, -, hfin⟩ := h
    exact ⟨hfin.sound, hfin.held⟩
  | cleanup => exact h

lemma Transaction.safe_program (tx : Transaction) (h : Settled w) :
    Safe World.env Detaches tx.Guarantee Sound (tx.Post w) tx.program w := by
  cases tx with
  | replace =>
    refine safe_bind ((safe_replaceForOwner (Flight.begin h.1 h.2)).mono ?_)
    intro res w' hfin
    refine safe_ret ?_ ⟨res, rfl, hfin⟩
    exact Holds.exists fun r => Finished.holds.pure_and
  | cleanup =>
    refine safe_bind ((safe_cleanupPending (Flight.begin h.1 h.2)).mono ?_)
    intro res w' hfin
    exact safe_ret Settled.holds hfin

namespace Config

/-- Between transactions the store is settled; within one, its program is safe. -/
def Inv (c : Config) : Prop :=
  match c.job with
  | none => Settled c.world
  | some job =>
    Safe World.env Detaches job.transaction.Guarantee Sound (job.transaction.Post job.start)
      job.program c.world

lemma inv_init : Inv {} := ⟨sound_init, held_init⟩

lemma Inv.post {start : World} {out : Outcome}
    (h : Inv { world := w, job := some ⟨tx, start, .ret out⟩ }) : tx.Post start out w :=
  Safe.result (E := World.env) (G := tx.Guarantee) h

variable {c : Config}

lemma inv_step {c' : Config} {i : Input} (h : c.Inv) (hst : c.step i = some c') : c'.Inv := by
  obtain ⟨w, job⟩ := c
  cases i with
  | detach ow vis =>
    cases hst
    cases job with
    | none => exact Settled.holds.stable _ _ ⟨ow, vis, rfl⟩ h
    | some => exact Safe.interfere h ⟨ow, vis, rfl⟩
  | begin tx =>
    cases job with
    | none =>
      cases hst
      exact tx.safe_program h
    | some => cases hst
  | move =>
    cases job with
    | none => cases hst
    | some =>
      obtain ⟨next, hnx, rfl⟩ := Option.map_eq_some_iff.mp hst
      exact (Safe.advance h hnx).2
  | finish =>
    cases job with
    | none => cases hst
    | some job =>
      obtain ⟨tx, start, prog⟩ := job
      cases prog with
      | ret =>
        cases hst
        exact h.post.settled
      | atomic | call => cases hst

theorem inv_run {ins : List Input} (h : run step {} ins = some c) : c.Inv :=
  run_invariant (fun _ _ _ hinv hst => inv_step hinv hst) inv_init h

lemma Inv.settled (h : c.Inv) (hrs : c.AtRest) : Settled c.world := by
  obtain ⟨w, job⟩ := c
  cases job with
  | none => exact h
  | some job =>
    obtain ⟨out, heq⟩ := hrs job rfl
    obtain ⟨tx, start, prog⟩ := job
    dsimp only at heq
    subst heq
    exact h.post.settled

/-- No physical breakpoint is forgotten or counted twice: when no transaction is under way, what
was placed or possibly placed and not cleared since is what the store tracks, each record under
its own token, and the store counts it. -/
theorem tracked_eq_present {inputs : List Input} {c : Config} (h : run step {} inputs = some c)
    (hrs : c.AtRest) : present c.world.log = sites c.world.store.tracked ∧
      (tokens c.world.store.tracked).Nodup ∧
      c.world.store.dapOwnedCount = (present c.world.log).card := by
  have hheld := ((inv_run h).settled hrs).2
  have hbal : present c.world.log = sites c.world.store.tracked := by
    simpa [Store.holds] using hheld.balance
  refine ⟨hbal, hheld.nodup_tracked, ?_⟩
  rw [hbal, Store.dapOwnedCount_eq]
  simp [sites]

/-- One line on two cores. The second core possibly commits, the owner detaches, and the rollback
clears one of the two records. -/
def partialPlacement : List Input :=
  [.begin (.replace "a" { key := "main.c" } [10] [0, 1]), .move (.token 0),
    .move (.token 7), .move (.set { actualLine := 10 } none),
    .move (.token 8), .move (.set { possiblyCommitted := true } (some (.new "timeout"))),
    .detach "a" ⟨id, fun _ => .refl _⟩,
    .move (.clear none), .move (.clear (some (.new "timeout"))),
    .move (.token 0), .finish]

theorem tracked_eq_present_partialPlacement :
    ∃ c, run step {} partialPlacement = some c ∧ c.AtRest ∧
      present c.world.log = sites c.world.store.tracked ∧ (tokens c.world.store.tracked).Nodup ∧
      c.world.store.dapOwnedCount = (present c.world.log).card := by
  have hid : (run step {} partialPlacement).map (·.job.isNone) = some true := rfl
  obtain ⟨c, hc, hnn⟩ := Option.map_eq_some_iff.mp hid
  have hrs : c.AtRest := by
    intro job hjo
    rw [Option.mem_def.mp hjo] at hnn
    cases hnn
  exact ⟨c, hc, hrs, tracked_eq_present hc hrs⟩

/-- After a replacement that returned without an error and whose owner is still attached, the
owner's breakpoints in the source are the requested ones. -/
theorem replaced_of_run (inputs : List Input) {w start : World} {owner : Owner} {src : Identity}
    {lines cores : List Int} {result : ReplaceResult} (h : run step {} inputs = some {
        world := w
        job := some ⟨.replace owner src lines cores, start, .ret (.replaced (.ok result))⟩ })
    (hatt : w.store.cleanupOwners owner = false) :
    ∃ events, Replaced owner src lines cores start events w result := by
  obtain ⟨r, hr, hfin⟩ := (inv_run h).post
  obtain rfl : Except.ok result = r := Outcome.replaced.inj hr
  exact hfin.replaced result rfl hatt

/-- A line that is kept and one that the placer refuses. -/
def keptAndRefused : List Input :=
  [.begin (.replace "a" { key := "main.c" } [10] [0]), .move (.token 0),
    .move (.token 7), .move (.set { actualLine := 10 } none), .move (.token 0), .finish,
    .begin (.replace "a" { key := "main.c" } [20, 10, 20] [0, 0]), .move (.token 0),
    .move (.token 8), .move (.set {} (some (.new "no code"))), .move (.token 0)]

theorem replaced_keptAndRefused : ∃ w start result, run step {} keptAndRefused = some {
          world := w
          job := some ⟨.replace "a" { key := "main.c" } [20, 10, 20] [0, 0], start,
            .ret (.replaced (.ok result))⟩ } ∧ w.store.cleanupOwners "a" = false ∧
      ∃ events, Replaced "a" { key := "main.c" } [20, 10, 20] [0, 0] start events w result :=
  ⟨_, _, _, rfl, rfl, replaced_of_run keptAndRefused rfl rfl⟩

end Config

end MultiDap.Breakpoint
