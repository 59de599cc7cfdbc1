import MultiDap.Trace.Epochs

/-!
# Shutdown

The wait group counts the open operations that are in progress, and the helpers that were left to be
reaped. A helper that is alive is always counted by one of them, so that the channel of
`ShutdownDone` is closed, and the probe is given back, only when there is none.
-/

namespace MultiDap.Trace

open Machine World List Call

structure Counted (w : World) : Prop where
  count : w.c.helpers = w.calls.countP Call.opening + w.reapers.length
  alive : ∀ h, h < w.helpers.length → w.done h = false →
    h ∈ w.reapers ∨ ∃ call ∈ w.calls, call.opening = true ∧ call.helper = some h
  opens : ∀ call ∈ w.calls, call.unrecorded = true → call.request.op = .open
  made : w.c.shutdownDone ≠ none → w.c.closed = true
  shut : w.c.shutdownDone = some true → w.c.helpers = 0
  closers : w.closers ≠ [] → w.c.closed = true
  freed : w.probeReleased = true → w.c.shutdownDone = some true

lemma counted_new (options : Options) : Counted (World.new options) := by
  constructor <;> simp [World.new]

lemma done_abort (w : World) (hlp : Option Nat) (h : Nat) : (w.abort hlp).done h = w.done h := by
  unfold World.done World.abort
  cases hlp with
  | none => rfl
  | some =>
    simp only [getElem?_modify]
    split_ifs <;> cases w.helpers[h]? <;> rfl

lemma length_abort (w : World) (hlp : Option Nat) :
    (w.abort hlp).helpers.length = w.helpers.length := by
  cases hlp <;> simp [World.abort]

lemma done_finished (w : World) (x y : Nat) (hdn : w.done y = true) :
    ({ w with helpers := w.helpers.modify x fun hlp =>
      { hlp with finished := true } } : World).done y = true := by
  simp only [World.done, getElem?_modify] at hdn ⊢
  split_ifs
  · cases hy : w.helpers[y]? with
    | none => simp [hy] at hdn
    | some => rfl
  · simpa using hdn

lemma World.closed_shutdown (w : World) : (w.invalidate "" "daemon_closed").c.closed = true := by
  unfold World.invalidate Controller.invalidate
  rw [if_neg (by simp)]
  have hcloses : Controller.invalidReason "daemon_closed" = "daemon_closed" := by decide
  obtain ⟨-, hke, -⟩ | ⟨-, takes, -, status, -, -, -, hke, -⟩ :=
    w.c.invalidate_cases "daemon_closed" <;> simp [World.abort, hke, hcloses]

namespace Counted

variable {w w' : World} {k : Nat} {call call' : Call}

section

variable (h : Counted w)

include h

lemma frame (hca : w'.calls = w.calls) (hre : w'.reapers = w.reapers)
    (hhel : w'.c.helpers = w.c.helpers) (hco : w.c.closed = true → w'.c.closed = true)
    (hshu : w'.c.shutdownDone = w.c.shutdownDone) (hclos : w'.closers = w.closers)
    (hfr : w'.probeReleased = w.probeReleased) (hlen : w'.helpers.length = w.helpers.length)
    (hdn : ∀ h, w.done h = true → w'.done h = true) : Counted w' where
  count := by rw [hhel, hca, hre, h.count]
  alive := by
    intro x hx hno
    rw [hre, hca]
    refine h.alive x (hlen ▸ hx) (Bool.eq_false_iff.mpr fun hd => ?_)
    simp [hdn x hd] at hno
  opens := hca ▸ h.opens
  made := fun hne => hco (h.made (hshu ▸ hne))
  shut := fun hs => hhel.trans (h.shut (hshu ▸ hs))
  closers := fun hne => hco (h.closers (hclos ▸ hne))
  freed := fun hf => hshu.trans (h.freed (hfr ▸ hf))

lemma alive_set {x : Nat} (hcl : w.calls[k]? = some call)
    (hx : x < w.helpers.length) (hno : w.done x = false) :
    x ∈ w.reapers ∨ call.opening = true ∧ call.helper = some x ∨
      ∀ call', ∃ other ∈ w.calls.set k call', other.opening = true ∧ other.helper = some x := by
  rcases h.alive x hx hno with hx | ⟨other, hother, hon, hx⟩
  · exact .inl hx
  obtain ⟨j, hj⟩ := List.mem_iff_getElem?.mp hother
  by_cases hjk : j = k
  · subst hjk
    cases hcl.symm.trans hj
    exact .inr (.inl ⟨hon, hx⟩)
  · refine .inr (.inr fun call' => ⟨other, List.mem_of_getElem? (i := j) ?_, hon, hx⟩)
    rw [getElem?_set_ne (Ne.symm hjk), hj]

lemma opens_set (hunr : call'.unrecorded = true → call'.request.op = .open) :
    ∀ other ∈ w.calls.set k call', other.unrecorded = true → other.request.op = .open := by
  intro other hother
  rcases mem_or_eq_of_mem_set hother with hother | rfl
  · exact h.opens other hother
  · exact hunr

lemma put (hcl : w.calls[k]? = some call) (hope : call'.opening = call.opening)
    (hunr : call'.unrecorded = true → call'.request.op = .open)
    (hhelp : ∀ x, call.opening = true → call.helper = some x → call'.helper = some x) :
    Counted (w.put k call') where
  count := by
    have hlt := lt_length hcl
    have hget : w.calls[k] = call := (List.getElem?_eq_some_iff.mp hcl).2
    have hle : (if call.opening = true then 1 else 0) ≤ w.calls.countP opening := by
      split_ifs with hon
      · exact List.countP_pos_iff.mpr ⟨call, List.mem_of_getElem? hcl, hon⟩
      · exact Nat.zero_le _
    have hcu : (w.calls.set k call').countP opening = w.calls.countP opening := by
      rw [List.countP_set hlt, hget, hope]
      omega
    exact h.count.trans (by rw [World.put, hcu])
  alive := by
    intro x hx hno
    refine (h.alive_set hcl hx hno).imp_right fun hx => ?_
    rcases hx with ⟨hon, hx⟩ | hx
    · have hlt := lt_length hcl
      exact ⟨call', List.mem_set hlt _, hope.trans hon, hhelp x hon hx⟩
    · exact hx call'
  opens := h.opens_set hunr
  made := h.made
  shut := h.shut
  closers := h.closers
  freed := h.freed

lemma goesOn {ph : Phase} (hcl : w.calls[k]? = some call) (hpr : call.inProgress = true)
    (hpr' : ({ call with phase := ph } : Call).inProgress = true)
    (hunr : ({ call with phase := ph } : Call).unrecorded = true → call.unrecorded = true)
    (hhelp : ∀ x, call.helper = some x → ({ call with phase := ph } : Call).helper = some x) :
    Counted (w.put k { call with phase := ph }) := by
  refine h.put hcl ?_ (fun hun => ?_) fun x _ => hhelp x
  · simp only [opening, hpr, hpr']
  · exact h.opens call (List.mem_of_getElem? hcl) (hunr hun)

lemma leave (hcl : w.calls[k]? = some call) (hpr : call.inProgress = true)
    {hlp : Option Nat} (hhelp : call.request.op = .open → call.helper = hlp)
    (res : Option Result) (err : Option Error) : Counted (w.leave k call hlp res err) := by
  have hlt := lt_length hcl
  have hget : w.calls[k] = call := (List.getElem?_eq_some_iff.mp hcl).2
  have hope : call.opening = decide (call.request.op = .open) := by
    simp [opening, hpr]
  have hcu : (w.calls.set k { call with phase := .returned res err }).countP opening =
      w.calls.countP opening - if call.request.op = .open then 1 else 0 := by
    rw [List.countP_set hlt, hget, hope]
    simp [opening, inProgress]
  have hpos : call.request.op = .open → 0 < w.calls.countP opening := fun hop =>
    List.countP_pos_iff.mpr ⟨call, List.mem_of_getElem? hcl, by simp [hope, hop]⟩
  refine ⟨?_, fun x hx hno => ?_, h.opens_set (by simp [unrecorded]), h.made, fun hs => ?_,
    h.closers, h.freed⟩
  · change w.c.helpers - _ = (w.calls.set k _).countP opening + (w.reapers ++ _).length
    rw [hcu, h.count]
    by_cases hop : call.request.op = .open
    · have := hpos hop
      cases hlp <;> simp [hop] <;> omega
    · simp [hop]
  · rcases h.alive_set hcl hx hno with hx | ⟨hon, hx⟩ | hx
    · exact .inl (List.mem_append_left _ hx)
    · have hop : call.request.op = .open := by simpa [hope] using hon
      obtain rfl := (hhelp hop).symm.trans hx
      exact .inl (List.mem_append_right _ (by simp [hop]))
    · exact .inr (hx _)
  · change w.c.helpers - _ = 0
    rw [h.shut hs, Nat.zero_sub]

lemma leaveStale (hcl : w.calls[k]? = some call)
    (hpr : call.inProgress = true) {hlp : Option Nat} (hhelp : call.helper = hlp) :
    Counted (w.leaveStale k call hlp) :=
  h.leave hcl hpr (fun _ => hhelp) _ _

lemma turnedAway (hcl : w.calls[k]? = some call) (hph : call.phase = .entering)
    (res : Option Result) (err : Error) : Counted (w.turnAway k call res err) := by
  have hno : call.opening = false := by simp [opening, inProgress, hph]
  refine h.put hcl ?_ (by simp [unrecorded]) (by simp [hno])
  rw [hno]
  rfl

lemma accepted {c : Controller} (hcl : w.calls[k]? = some call)
    (hph : call.phase = .entering) (hon : w.c.closed = false)
    (hac : w.c.Accepted call.owner call.request c) : Counted ({ w with c := c }.accept k call) := by
  have hlt := lt_length hcl
  have hget : w.calls[k] = call := (List.getElem?_eq_some_iff.mp hcl).2
  have hno : call.opening = false := by simp [opening, inProgress, hph]
  have hc : c.helpers = (w.c.helpers + if call.request.op = .open then 1 else 0) ∧
      c.closed = w.c.closed ∧ c.shutdownDone = w.c.shutdownDone := by
    cases hac with
    | «open» hop => exact ⟨by rw [if_pos hop]; rfl, rfl, rfl⟩
    | other _ hop => exact ⟨by rw [if_neg hop]; rfl, rfl, rfl⟩
  have hshu : w.c.shutdownDone = none := by
    by_contra hne
    simp [h.made hne] at hon
  refine ⟨?_, fun x hx hno' => ?_, h.opens_set fun hun => ?_, ?_, ?_,
    fun hne => hc.2.1.trans (h.closers hne), fun hf => ?_⟩
  · change c.helpers = (w.calls.set k _).countP opening + w.reapers.length
    rw [hc.1, h.count, List.countP_set hlt, hget, hno]
    by_cases hop : call.request.op = .open
    · cases hacq : c.options.acquiresSource <;>
        simp [hop, opening, inProgress] <;> omega
    · simp [hop, opening]
  · refine (h.alive_set hcl hx hno').imp_right fun hx => ?_
    exact hx.elim (fun hx => by simp [hno] at hx) (· _)
  · by_contra hop
    simp [unrecorded, hop] at hun
  · change c.shutdownDone ≠ none → _
    rw [hc.2.2, hshu]
    exact fun hne => absurd rfl hne
  · change c.shutdownDone = some true → _
    rw [hc.2.2, hshu]
    simp
  · have := h.freed hf
    simp [hshu] at this

lemma same (hca : w'.calls = w.calls) (hre : w'.reapers = w.reapers)
    (hhel : w'.c.helpers = w.c.helpers) (hco : w'.c.closed = w.c.closed)
    (hshu : w'.c.shutdownDone = w.c.shutdownDone) (hclos : w'.closers = w.closers)
    (hfr : w'.probeReleased = w.probeReleased) (hw : w'.helpers = w.helpers) : Counted w' :=
  h.frame hca hre hhel (fun hc => hco.trans hc) hshu hclos hfr (by rw [hw])
    fun x => by simp [World.done, hw]

lemma abort (hlp : Option Nat) : Counted (w.abort hlp) :=
  h.frame rfl rfl rfl id rfl rfl rfl (length_abort w hlp) fun x hx => (done_abort w hlp x).trans hx

lemma abortRelease (hlp lease : Option Nat) : Counted ((w.abort hlp).releaseAfterReap lease hlp) :=
  (h.abort hlp).same rfl rfl rfl rfl rfl rfl rfl rfl

lemma spawn {lease : Option Nat} (hcl : w.calls[k]? = some call)
    (hph : call.phase = .factory lease none) :
    Counted ({ w with helpers := w.helpers ++ [Helper.mk lease false false] }.put k
      { call with phase := .factory lease (some w.helpers.length) }) := by
  have hpr : call.inProgress = true := by simp [inProgress, hph]
  have hop := h.opens call (List.mem_of_getElem? hcl) (by simp [unrecorded, hph])
  have hput : Counted (w.put k { call with phase := .factory lease (some w.helpers.length) }) :=
    h.goesOn hcl hpr rfl (by simp [unrecorded, hph]) (by simp [helper, hph])
  refine { hput with alive := fun x hx hno => ?_ }
  replace hx : x < w.helpers.length + 1 := by simpa [World.put] using hx
  rcases Nat.lt_succ_iff_lt_or_eq.mp hx with hx | rfl
  · refine hput.alive x hx ?_
    simpa [World.done, World.put, List.getElem?_append_left hx] using hno
  · have hlt := lt_length hcl
    exact .inr ⟨_, List.mem_set hlt _, by simp [opening, inProgress, hop], rfl⟩

theorem turned {turn : Turn} (hcl : w.calls[k]? = some call)
    (htur : Turned w k call turn w') : Counted w' := by
  cases htur with
  | turnedAway c res err hph hc =>
    have hc' : Counted { w with c := c } := by
      rcases hc with rfl | rfl
      · exact h
      · obtain heq | ⟨_, -, -, -, _, heq⟩ := w.c.death_cases w.done <;>
          exact h.same rfl rfl (by rw [heq]) (by rw [heq]) (by rw [heq]) rfl rfl rfl
    exact hc'.turnedAway hcl hph res err
  | accepted _ hph hon _ _ _ hac =>
    exact h.accepted hcl hph hon hac
  | spawn _ hph => exact h.spawn hcl hph
  | acquired hph | notAcquired _ hph | hold _ hph | fence hph | record _ hph
  | builtHelper _ _ hph | built _ _ _ hph | performed _ _ _ hph =>
    refine goesOn ?_ hcl ?_ rfl ?_ ?_
    · exact h.same rfl rfl rfl rfl rfl rfl rfl rfl
    · simp [inProgress, hph]
    · simp [unrecorded, hph]
    · simp [helper, hph]
  | builtFailed _ hlp _ hph =>
    refine goesOn (abort ?_ hlp) hcl ?_ rfl ?_ ?_
    · exact h.same rfl rfl rfl rfl rfl rfl rfl rfl
    · simp [inProgress, hph]
    · simp [unrecorded, hph]
    · simp [helper, hph]
  | holdStale _ hph | fenceStale hph | failingStale _ _ hph | commitStale _ _ _ hph =>
    refine leaveStale ?_ ?_ ?_ ?_
    · exact h.same rfl rfl rfl rfl rfl rfl rfl rfl
    · exact hcl
    · simp [inProgress, hph]
    · simp [helper, hph]
  | builtStale _ hlp _ hph | recordStale hlp hph =>
    refine leaveStale (abortRelease ?_ _ _) ?_ ?_ ?_
    · exact h.same rfl rfl rfl rfl rfl rfl rfl rfl
    · exact hcl
    · simp [inProgress, hph]
    · simp [helper, hph]
  | failing _ why cerr hph =>
    have hke := (w.c.factoryFailed_keeps why cerr).1
    refine leave ?_ ?_ ?_ (fun _ => ?_) _ _
    · exact h.same rfl rfl hke.helpers hke.closed hke.shutdownDone rfl rfl rfl
    · exact hcl
    · simp [inProgress, hph]
    · simp [helper, hph]
  | commit _ _ _ _ hph _ hke =>
    refine leave (abort ?_ _) ?_ ?_ (fun _ => ?_) _ _
    · exact h.same rfl rfl hke.helpers hke.closed hke.shutdownDone rfl rfl rfl
    · exact hcl
    · simp [inProgress, hph]
    · simp [helper, hph]

lemma refreshDeath : Counted { w with c := w.c.refreshDeath w.done } := by
  obtain heq | ⟨_, -, -, -, _, heq⟩ := w.c.death_cases w.done <;>
    exact h.same rfl rfl (by rw [heq]) (by rw [heq]) (by rw [heq]) rfl rfl rfl

lemma invalidate (ow why : String) : Counted (w.invalidate ow why) := by
  have hc : (w.c.invalidate ow why).controller.helpers = w.c.helpers ∧
      (w.c.invalidate ow why).controller.shutdownDone = w.c.shutdownDone := by
    unfold Controller.invalidate
    split_ifs
    · exact ⟨rfl, rfl⟩
    · obtain ⟨-, hke, -⟩ | ⟨-, takes, -, status, -, -, -, hke, -⟩ :=
        w.c.invalidate_cases why <;> exact ⟨by rw [hke], by rw [hke]⟩
  exact h.frame rfl rfl hc.1 (closed_invalidate · ow why) hc.2 rfl rfl
    (length_abort _ _) fun x hx => (done_abort _ _ x).trans hx

lemma reaped {i hlp : Nat} (hi : w.reapers[i]? = some hlp) (hdn : w.done hlp = true) :
    Counted { w with
      c := { w.c with helpers := w.c.helpers - 1 }, reapers := w.reapers.eraseIdx i } := by
  have hlt := lt_length hi
  refine { h with count := ?_, alive := fun x hx hno => ?_, shut := fun hs => ?_ }
  · have := h.count
    simp only [List.length_eraseIdx_of_lt hlt]
    omega
  · refine (h.alive x hx hno).imp_left fun hme => ?_
    obtain ⟨j, hj⟩ := List.mem_iff_getElem?.mp hme
    have hji : j ≠ i := by
      rintro rfl
      cases hi.symm.trans hj
      cases hdn.symm.trans hno
    exact List.mem_eraseIdx_iff_getElem?.mpr ⟨j, hji, hj⟩
  · simp [h.shut hs]

theorem step {e : Event} (hst : w.step e = some w') : Counted w' := by
  cases stepped hst with
  | begins =>
    refine { h with count := ?_, alive := fun x hx hno => ?_, opens := fun call hcl => ?_ }
    · simp [h.count, countP_append, opening, inProgress]
    · exact (h.alive x hx hno).imp_right (Exists.imp fun _ => And.imp_left (mem_append_left _))
    rcases mem_append.mp hcl with hcl | hcl
    · exact h.opens call hcl
    · rw [mem_singleton.mp hcl]
      simp [unrecorded]
  | turned _ _ hcl htur => exact h.turned hcl htur
  | invalidated ow why => exact h.invalidate ow why
  | observed => exact h.refreshDeath
  | finished x =>
    refine h.frame rfl rfl rfl id rfl rfl rfl (by simp) fun y hy => ?_
    exact done_finished w x y hy
  | poisoned x => exact h.abort (some x)
  | released => exact h.same rfl rfl rfl rfl rfl rfl rfl rfl
  | reaped _ _ hi hdn => exact h.reaped hi hdn
  | waited hshu hhel =>
    exact { h with
      made := fun _ => h.made (by simp [hshu]), shut := fun _ => hhel, freed := fun _ => rfl }
  | shutdown =>
    exact { h.invalidate "" "daemon_closed" with closers := fun _ => w.closed_shutdown }
  | channel _ hi =>
    have hco := h.closers (ne_nil_of_mem (List.mem_of_getElem? hi))
    refine { h with
      made := fun _ => hco, closers := fun _ => hco, shut := fun hs => h.shut ?_
      freed := fun hf => ?_ }
    · cases hs' : w.c.shutdownDone <;> simp_all
    · simp [h.freed hf]
  | freed _ hi hshu =>
    exact { h with
      freed := fun _ => hshu
      closers := fun _ => h.closers (ne_nil_of_mem (List.mem_of_getElem? hi)) }

end

end Counted

theorem counted {options : Options} {es : List Event} {w : World}
    (hru : run World.step (World.new options) es = some w) : Counted w := by
  have hst (u : World) (e : Event) (v : World) : Counted u → u.step e = some v → Counted v :=
    fun h => h.step
  exact run_invariant hst (counted_new options) hru

lemma Counted.finished {w : World} (h : Counted w) (hshut : w.c.shutdownDone = some true) {x : Nat}
    (hx : x < w.helpers.length) : w.done x = true := by
  have hcu := h.count.symm.trans (h.shut hshut)
  by_contra hno
  rcases h.alive x hx (Bool.eq_false_iff.mpr hno) with hme | ⟨call, hcl, hon, -⟩
  · have := length_pos_of_mem hme
    omega
  · have : 0 < w.calls.countP opening := List.countP_pos_iff.mpr ⟨call, hcl, hon⟩
    omega

/-- The channel of `ShutdownDone` is closed, and the probe is released, only when every helper that
was ever started has finished. A call that was not accepted before the shutdown never calls the
factory. -/
theorem shutdown_waits_for_helpers {options : Options} {events : List Event} {w : World}
    (hru : run World.step (World.new options) events = some w) :
    (w.c.shutdownDone = some true → ∀ x < w.helpers.length, w.done x = true) ∧
    (∀ w₁ k, w.step .shutdown = some w₁ →
      (∀ call : Call, w₁.calls[k]? = some call → call.phase = .entering) →
      ∀ later w₂, run World.step w₁ later = some w₂ →
        w₂.Refuses k ∧ ∀ effect, (k, effect) ∉ w₂.log) ∧
    (w.probeReleased = true → ∀ x < w.helpers.length, w.done x = true) := by
  have h := counted hru
  refine ⟨fun hshut x hx => h.finished hshut hx, fun w₁ k hshu hen later w₂ hru' => ?_,
    fun hfr x hx => h.finished (h.freed hfr) hx⟩
  cases hshu
  have hlog : ∀ effect, (k, effect) ∉ w.log := by
    intro effect he
    obtain ⟨call, hcl, hph⟩ := (fenced hru).logged _ he
    exact hph (hen call hcl)
  have hbars (u : World) (e : Event) (v : World) : u.Bars k → u.step e = some v → v.Bars k :=
    bars_step
  refine (run_invariant hbars ?_ hru').2
  exact ⟨.inr w.closed_shutdown, fun call hcl => .inl (hen call hcl), hlog⟩

/-- The daemon is shut down while the factory runs, and a call comes after that. -/
def shutdownOpen : List Event :=
  [.execute "front" liveRequest, .call 0 (.enter none), .call 0 (.acquired true false),
    .call 0 (.locked false), .call 0 (.locked false), .call 0 .spawn, .shutdown, .closer 0,
    .execute "front" liveRequest, .call 1 (.enter none), .call 0 (.built false),
    .call 0 (.locked false), .finish 0, .reap 0, .waited, .closer 0]

theorem shutdown_waits_for_helpers_open :
    ∃ w, run World.step (World.new sampleOptions) shutdownOpen = some w ∧
      w.probeReleased = true ∧ w.helpers.length = 1 ∧ w.done 0 = true := by
  obtain ⟨w, hru, hfr, hlen⟩ : ∃ w,
      run World.step (World.new sampleOptions) shutdownOpen = some w ∧
        w.probeReleased = true ∧ w.helpers.length = 1 :=
    exists_run (by decide +kernel)
  refine ⟨w, hru, hfr, hlen, (shutdown_waits_for_helpers hru).2.2 hfr 0 ?_⟩
  exact hlen ▸ Nat.one_pos

/-- The count that shutdown waits for is exact: one for each open operation under way and for each
helper that is being reaped, and no unfinished one is left out. -/
theorem helpers_counted {options : Options} {events : List Event} {w : World}
    (hrn : run World.step (World.new options) events = some w) :
    w.c.helpers = w.calls.countP Call.opening + w.reapers.length ∧
      ∀ x < w.helpers.length, w.done x = false → 0 < w.c.helpers := by
  have h := counted hrn
  refine ⟨h.count, fun x hx hdone => h.count ▸ ?_⟩
  rcases h.alive x hx hdone with hreap | ⟨call, hcall, hop, -⟩
  · exact Nat.add_pos_right _ (length_pos_of_mem hreap)
  · exact Nat.add_pos_left (countP_pos_iff.mpr ⟨call, hcall, hop⟩) _

theorem helpers_counted_overtaken :
    ∃ w, run World.step (World.new sampleOptions) overtakenOpen = some w ∧ 0 < w.c.helpers := by
  obtain ⟨w, hrn, hlen, hdone⟩ : ∃ w, run World.step (new sampleOptions) overtakenOpen = some w ∧
      0 < w.helpers.length ∧ w.done 0 = false := exists_run (by decide +kernel)
  exact ⟨w, hrn, (helpers_counted hrn).2 0 hlen hdone⟩

end MultiDap.Trace
