import MultiDap.Actor.Submission
import MultiDap.Breakpoint.Isolation

/-!
# Transactions of the actor

The worker executes the breakpoint operations of the actor, one at a time, while the actor detaches
frontends beside them. The store is sound at every moment, and a replacement that has succeeded
leaves its frontend with breakpoints on the requested lines alone.
-/

namespace MultiDap.Breakpoint

open Source

/-- The breakpoints of a frontend in a source are on some of these lines. -/
def Store.OnLines (s : Store) (owner : Owner) (source : Identity) (lines : List Int) : Prop :=
  ∀ l ∈ s.live, l.owner = owner → l.source.key = source.key → l.line ∈ lines

instance (s : Store) (owner : Owner) (source : Identity) (lines : List Int) :
    Decidable (s.OnLines owner source lines) :=
  inferInstanceAs (Decidable (∀ l ∈ s.live, _))

lemma World.mem_live_of_detach {w : World} {owner : Owner} {vis : Visit Logical} {l : Logical}
    (hl : l ∈ (w.detach owner vis).store.live) : l ∈ w.store.live := by
  simp only [World.detach, Store.requestCleanupSignal] at hl
  split_ifs at hl
  · exact hl
  have hsm := (Store.SameLive.foldl Store.sameLive_withdraw
    (((vis.order w.store.live).filter (·.owner == owner)).flatMap (·.physical))
    { w.store with cleanupOwners := Function.update w.store.cleanupOwners owner true }).live
  have := List.mem_of_mem_filter hl
  rwa [hsm] at this

lemma Finished.onLines {owner : Owner} {src : Identity} {lines cores : List Int}
    {start w : World} {res : ReplaceResult}
    (h : Finished owner src lines cores start (.ok res) w) : w.store.OnLines owner src lines := by
  intro l hl hon hsrc
  cases hf : w.store.cleanupOwners owner with
  | true =>
    -- the frontend has detached and has no breakpoint any more
    have := h.sound.unfenced l hl
    rw [hon, hf] at this
    cases this
  | false =>
    obtain ⟨es, hre⟩ := h.replaced res rfl hf
    have hen := ((hre.live l).mp ⟨hl, hon, hsrc⟩).1
    exact (hre.lines.2 l.line).mp (List.mem_map_of_mem hen)

end MultiDap.Breakpoint

namespace MultiDap.Actor

open Machine Prog Breakpoint Breakpoint.World

/-! ### Programs -/

/-- What a step of a breakpoint operation may do to the store. -/
def Work.Guarantee : Work → World → World → Prop
  | .breakpoints owner _ _ _ _ => Touches owner
  | .sourceResolution owner _ _ _ _ _ => Touches owner
  | _ => Sweeps

/-- The breakpoints that the frontend of an operation has in its source are on requested lines. -/
def Work.Replaces : Work → World → Prop
  | .breakpoints owner identity lines _ _, w => w.store.OnLines owner identity lines
  | .sourceResolution owner identity lines _ _ _, w => w.store.OnLines owner identity lines
  | _, _ => True

/-- What a breakpoint operation leaves behind. -/
def Work.Leaves (work : Work) (result : Except Error Value) (w : World) : Prop :=
  Settled w ∧ ((∃ replaced, result = .ok (.replaced replaced)) → work.Replaces w)

lemma Work.Replaces.detach {work : Work} {w : World} (h : work.Replaces w) (owner : Owner)
    (vis : Visit Logical) : work.Replaces (w.detach owner vis) := by
  cases work with
  | breakpoints | sourceResolution => exact fun l hl => h l (World.mem_live_of_detach hl)
  | _ => trivial

lemma Work.Leaves.holds {work : Work} {res : Except Error Value} :
    Holds Detaches Sound (work.Leaves res) where
  stable := by
    rintro s t ⟨owner, visit, rfl⟩ ⟨hs, hre⟩
    exact ⟨Settled.holds.stable _ _ ⟨owner, visit, rfl⟩ hs, fun hok => (hre hok).detach _ _⟩
  now := fun _ h => h.1.1

section Safe

variable {owner : Owner} {identity : Source.Identity} {lines cores : List Int} {w : World}
variable {work : Work}

lemma safe_replaced (work : Work) (hs : Settled w)
    (hw : ∀ w', w'.store.OnLines owner identity lines → work.Replaces w') :
    Safe World.env Detaches (Touches owner) Sound (fun res => work.Leaves (res.map .replaced))
      (replaceForOwner owner identity lines cores) w := by
  refine (safe_replaceForOwner (Flight.begin hs.1 hs.2)).mono ?_
  intro res w' hfin
  refine ⟨⟨hfin.sound, hfin.held⟩, ?_⟩
  cases res with
  | error => rintro ⟨_, ⟨⟩⟩
  | ok => exact fun _ => hw w' hfin.onLines

lemma leaves_error (hs : Settled w) (err : Error) : work.Leaves (.error err) w :=
  ⟨hs, by rintro ⟨_, ⟨⟩⟩⟩

lemma safe_resolveAndReplace (work : Work) (cov : List Source.Observation)
    (expected : List Int) (hs : Settled w)
    (hw : ∀ w', w'.store.OnLines owner identity lines → work.Replaces w') :
    Safe World.env Detaches (Touches owner) Sound (fun res => work.Leaves (res.map .replaced))
      (resolveAndReplace owner identity lines cov expected) w := by
  refine safe_ask Settled.holds hs fun t rp u ans ht hperf => ?_
  -- the resolver does not touch the store
  obtain rfl : t = u := by
    cases rp <;> simp [World.env] at hperf
    exact (Prod.mk.inj hperf).1
  refine ⟨Touches.refl owner t, ?_⟩
  split
  · exact safe_ret Work.Leaves.holds (leaves_error ht _)
  split
  · exact safe_ret Work.Leaves.holds (leaves_error ht _)
  split
  · exact safe_ret Work.Leaves.holds (leaves_error ht _)
  · exact safe_replaced work ht hw

/-- Every transaction is safe in a store that is settled. -/
theorem Work.safe_task {opts : Options} {prog : Transact (Except Error Value)}
    (h : work.task opts = .transact prog) (hs : Settled w) :
    Safe World.env Detaches work.Guarantee Sound work.Leaves prog w := by
  cases work with
  | breakpoints owner identity lines cores rp =>
    obtain rfl := Task.transact.inj h
    refine safe_bind ((safe_replaced (.breakpoints owner identity lines cores rp) hs
      fun _ h => h).mono fun res w' hleft => ?_)
    exact safe_ret Work.Leaves.holds hleft
  | sourceResolution owner identity lines cov expected rp =>
    obtain rfl := Task.transact.inj h
    refine safe_bind ((safe_resolveAndReplace
      (.sourceResolution owner identity lines cov expected rp) cov expected hs
      fun _ h => h).mono fun res w' hleft => ?_)
    exact safe_ret Work.Leaves.holds hleft
  | breakpointCleanup =>
    obtain rfl := Task.transact.inj h
    refine safe_bind ((safe_cleanupPending (Flight.begin hs.1 hs.2)).mono fun res w' hleft => ?_)
    exact safe_ret Work.Leaves.holds ⟨hleft, fun _ => trivial⟩
  | inspection =>
    simp only [Work.task] at h
    split at h <;> cases h
  | _ => simp [Work.task] at h

end Safe

namespace Runtime

variable {G : Guard} {r r' : Runtime}

/-! ### The worker -/

/-- The store is settled, unless the worker is in the middle of a transaction. -/
structure Transacts (r : Runtime) : Prop where
  settled : (∀ job program, r.worker ≠ some ⟨job, .transact program⟩) → Settled r.world
  safe : ∀ job program, r.worker = some ⟨job, .transact program⟩ →
    Safe World.env Detaches job.work.Guarantee Sound job.work.Leaves program r.world

lemma transacts_new (opts : Options) : (new opts).Transacts where
  settled := fun _ => ⟨sound_init, held_init⟩
  safe := by simp [new]

lemma Transacts.sound (h : r.Transacts) : r.world.Sound := by
  by_cases hno : ∃ job prog, r.worker = some ⟨job, .transact prog⟩
  · obtain ⟨job, prog, hw⟩ := hno
    exact Safe.now (h.safe job prog hw)
  · simp only [not_exists] at hno
    exact (h.settled hno).1

lemma Transacts.free (h : Settled r.world)
    (hw : ∀ job prog, r.worker ≠ some ⟨job, .transact prog⟩) : r.Transacts where
  settled := fun _ => h
  safe := fun job prog hw' => absurd hw' (hw job prog)

theorem Transacts.move (h : r.Transacts) (hm : Move G r r') : r'.Transacts := by
  cases hm with
  | sample | bootstrap => rw [absorb_eq]; exact { h with }
  | reducerErr | reducerFault => rw [actions_eq]; exact { h with }
  | allocate => rw [withLedger_eq]; exact { h with }
  | withdraw owner vis =>
    have hdet : Detaches r.world (r.world.detach owner vis) := ⟨owner, vis, rfl⟩
    exact
      { settled := fun hno => Settled.holds.stable _ _ hdet (h.settled hno)
        safe := fun job prog hw => (h.safe job prog hw).interfere hdet }
  | dispatch _ _ _ htn => cases htn <;> exact { h with }
  | worker _ htn =>
    cases htn with
    | take job _ hid =>
      have hs := h.settled (by simp [hid])
      refine ⟨fun _ => hs, fun job' prog hw => ?_⟩
      obtain ⟨rfl, htask⟩ : job = job' ∧ job.work.task r.opts = .transact prog := by
        simpa using hw
      exact Work.safe_task htask hs
    | transact job prog next _ _ hw hst =>
      refine ⟨fun hno => absurd rfl (hno job next), fun job' prog' hw' => ?_⟩
      obtain ⟨rfl, rfl⟩ : job = job' ∧ next = prog' := by simpa using hw'
      exact ((h.safe job prog hw).advance hst).2
    | inspect _ _ _ _ _ hw =>
      have hs := h.settled (by simp [hw])
      rw [withLedger_eq]
      exact .free hs (by simp)
    | report job _ res hw hed =>
      refine .free ?_ (by simp [Runtime.report])
      rcases hed with ⟨rfl, -⟩ | rfl | rfl
      · exact h.settled (by simp [hw])
      · exact (h.safe job _ hw).result.1
      · exact h.settled (by simp [hw])
  | _ => exact { h with }

lemma Transacts.guarantee (h : r.Transacts) {job : Job}
    {prog next : Transact (Except Error Value)} {world : World} {rp : Breakpoint.Reply}
    (hw : r.worker = some ⟨job, .transact prog⟩)
    (hst : prog.advance World.env r.world rp = some (world, next)) :
    job.work.Guarantee r.world world :=
  ((h.safe job prog hw).advance hst).1

end Runtime

end MultiDap.Actor
