import MultiDap.Actor.References

/-!
# The lifetime of a handle

`Spans` compares two states of a run. What was valid in the first is valid in the second exactly if
no invalidation was published in between and the session has neither failed closed nor been closed.
By `References`, what is valid is what resolves.
-/

namespace MultiDap.Actor

open Machine Inspection Stop Session Relation Handle List Option

instance : noStaleAllocation.Checkable where
  allocate r := inferInstanceAs (Decidable (¬ r.StaleInspection))

namespace Runtime

variable {G : Guard} {r r' r'' : Runtime}

/-! ### Two states of a run -/

def Undisturbed (events : List Event) : Prop := ∀ e ∈ events, e.kind ≠ .invalidated

/-- The handles of an earlier state in a later one. -/
structure Spans (r r' : Runtime) : Prop where
  counted : ∀ h ∈ r.counted, h ∈ r'.counted
  faulted : r.faulted = true → r'.faulted = true
  closing : r.closing = true → r'.closing = true
  issued : r.ledger.issued <+: r'.ledger.issued
  exhausted : r.ledger.store.next ≤ 0 → r'.ledger.store.next ≤ 0
  valid : ∃ events, r'.published = r.published ++ events ∧ ∀ h ∈ r.counted,
    (h ∈ r'.valid ↔ h ∈ r.valid ∧ Undisturbed events ∧ r'.faulted = false ∧ r'.closing = r.closing)

lemma Spans.trans (h : r.Spans r') (h' : r'.Spans r'') : r.Spans r'' := by
  refine ⟨fun g hg => h'.counted g (h.counted g hg), fun hf => h'.faulted (h.faulted hf),
    fun hc => h'.closing (h.closing hc), h.issued.trans h'.issued,
    fun hn => h'.exhausted (h.exhausted hn), ?_⟩
  obtain ⟨es, hpub, hva⟩ := h.valid
  obtain ⟨es', hpub', hva'⟩ := h'.valid
  refine ⟨es ++ es', by rw [hpub', hpub, append_assoc], fun g hg => ?_⟩
  rw [hva' g (h.counted g hg), hva g hg]
  constructor
  · rintro ⟨⟨hv, hu, -, hc⟩, hu', hf', hc'⟩
    refine ⟨hv, ?_, hf', hc'.trans hc⟩
    intro e he
    rcases mem_append.mp he with he | he
    · exact hu e he
    · exact hu' e he
  rintro ⟨hv, hu, hf, hc⟩
  -- a flag that is as it was at the end has not been set in between
  have hf' : r'.faulted = false := by
    by_contra hno
    simp [h'.faulted (by simpa using hno)] at hf
  have hc' : r'.closing = r.closing := by
    cases hr : r.closing with
    | true => exact h.closing hr
    | false =>
      by_contra hno
      simp [h'.closing (by simpa using hno), hr] at hc
  exact ⟨⟨hv, fun e he => hu e (mem_append_left _ he), hf', hc'⟩,
    fun e he => hu e (mem_append_right _ he), hf, hc.trans hc'.symm⟩

lemma References.spans_kept (h : r.References) {es : List Event}
    (hpub : r'.published = r.published ++ es) (heve : Undisturbed es)
    (hva : r'.valid = r.valid) (hco : r'.counted = r.counted)
    (hled : r'.ledger.issued = r.ledger.issued ∧ r'.ledger.store.next = r.ledger.store.next)
    (hfa : r'.faulted = r.faulted) (hcl : r'.closing = r.closing) : r.Spans r' where
  counted := by simp [hco]
  faulted := by simp [hfa]
  closing := by simp [hcl]
  issued := by rw [hled.1]
  exhausted := by rw [hled.2]; exact id
  valid := by
    refine ⟨es, hpub, fun g _ => ?_⟩
    rw [hva, hfa, hcl]
    exact ⟨fun hg => ⟨hg, heve, (h.stopped g hg).1, rfl⟩, And.left⟩

lemma References.spans_same (h : r.References) (hpub : r'.published = r.published)
    (hva : r'.valid = r.valid) (hco : r'.counted = r.counted)
    (hled : r'.ledger.issued = r.ledger.issued ∧ r'.ledger.store.next = r.ledger.store.next)
    (hfa : r'.faulted = r.faulted) (hcl : r'.closing = r.closing) : r.Spans r' :=
  h.spans_kept (hpub.trans (append_nil _).symm) (by simp [Undisturbed]) hva hco hled hfa hcl

lemma spans_cleared {es : List Event} (hpub : r'.published = r.published ++ es)
    (hva : r'.valid = []) (hco : r'.counted = r.counted)
    (hled : r'.ledger.issued = r.ledger.issued ∧ r'.ledger.store.next = r.ledger.store.next)
    (hfa : r.faulted = true → r'.faulted = true) (hcl : r.closing = true → r'.closing = true)
    (hre : ¬ (Undisturbed es ∧ r'.faulted = false ∧ r'.closing = r.closing)) : r.Spans r' where
  counted := by simp [hco]
  faulted := hfa
  closing := hcl
  issued := by rw [hled.1]
  exhausted := by rw [hled.2]; exact id
  valid := by
    refine ⟨es, hpub, fun g _ => ?_⟩
    rw [hva]
    exact ⟨fun hg => (not_mem_nil hg).elim, fun hg => (hre hg.2).elim⟩

variable {led : Ledger Payload}

lemma References.spans_minted (h : r.References) {ep : UInt64}
    (hm : Ledger.Minted ep r.ledger led) : r.Spans (r.withLedger led) := by
  cases hm with
  | refused =>
    rw [withLedger_self]
    exact h.spans_same rfl rfl rfl ⟨rfl, rfl⟩ rfl rfl
  | minted g hop _ hne _ _ hiss =>
    have hother : ∀ g' ∈ r.counted, g' ≠ g := fun g' hg' heq =>
      (hne g' (h.issued g' hg')).ne (congrArg Handle.id heq)
    unfold Runtime.withLedger
    rw [hiss, drop_left]
    split_ifs with hs
    · refine ⟨fun g' hg' => mem_append_left _ hg', id, id, ?_, ?_, [], ?_, fun g' hg' => ?_⟩
      · exact hiss ▸ prefix_append _ _
      · exact fun hn => absurd hop (not_lt.mpr hn)
      · exact (append_nil _).symm
      · simp [hother g' hg', Undisturbed, hs.2]
    refine ⟨fun g' hg' => hg', id, id, ?_, ?_, [], ?_, fun g' hg' => ?_⟩
    · exact hiss ▸ prefix_append _ _
    · exact fun hn => absurd hop (not_lt.mpr hn)
    · exact (append_nil _).symm
    · exact ⟨fun hv => ⟨hv, by simp [Undisturbed], (h.stopped g' hv).1, rfl⟩, And.left⟩

variable {snap : Session.Snapshot}

lemma kind_effectEvent {eff : Effect} :
    (r.effectEvent snap eff).kind = .invalidated ↔ eff.kind = .invalidateSuspended := by
  unfold effectEvent
  split <;> rename_i hk <;> simp [hk, stoppedEvent]

lemma undisturbed_sampleEvents {fed : Fed} :
    Undisturbed (r.sampleEvents fed) ↔ invalidates fed.effects = false := by
  simp only [Undisturbed, sampleEvents, passedOn, invalidates, List.forall_mem_map, ne_eq,
    kind_effectEvent, List.any_eq_false, beq_iff_eq]
  split_ifs
  · simp [List.mem_filter]
  · rfl

lemma undisturbed_actions {cause : Option Error} {acts : List Action} :
    Undisturbed (acts.map (r.actionEvent snap cause)) ↔ invalidating acts = false := by
  have hkd (action : Action) : (r.actionEvent snap cause action).kind = .invalidated ↔
      action.kind = .invalidateSuspendedReferences := by
    unfold actionEvent
    split <;> rename_i hk <;> simp [hk]
  simp only [Undisturbed, invalidating, List.forall_mem_map, ne_eq, hkd, List.any_eq_false,
    beq_iff_eq]

lemma References.spans_absorb (h : r.References) (fed : Fed) : r.Spans (r.absorb fed) := by
  rw [absorb_eq]
  cases hinv : invalidates fed.effects with
  | true =>
    exact spans_cleared rfl rfl rfl ⟨rfl, rfl⟩ id id fun hu => by
      simp [undisturbed_sampleEvents.mp hu.1] at hinv
  | false => exact h.spans_kept rfl (undisturbed_sampleEvents.mpr hinv) rfl rfl ⟨rfl, rfl⟩ rfl rfl

lemma References.spans_actions (h : r.References) (models : Models) (acts : List Action)
    (snap : Session.Snapshot) (cause : Option Error) :
    r.Spans ({ r with models }.applyReducerActions acts snap cause) := by
  rw [actions_eq]
  cases hinv : invalidating acts with
  | true =>
    exact spans_cleared rfl rfl rfl ⟨rfl, rfl⟩ id id fun hu => by
      simp [undisturbed_actions.mp hu.1] at hinv
  | false => exact h.spans_kept rfl (undisturbed_actions.mpr hinv) rfl rfl ⟨rfl, rfl⟩ rfl rfl

theorem References.spans (h : r.References) (hm : Move G r r') : r.Spans r' := by
  cases hm with
  | release evt hi =>
    have hkd : evt.kind ≠ .invalidated := by cases hi <;> simp [stoppedEvent]
    refine h.spans_kept rfl (by simpa [Undisturbed] using hkd) ?_ rfl ⟨rfl, rfl⟩ rfl rfl
    exact if_neg hkd
  | sample => exact h.spans_absorb _
  | bootstrap => exact { h.spans_absorb _ with }
  | reducerErr => exact h.spans_actions _ _ _ _
  | reducerFault =>
    rw [actions_eq]
    refine spans_cleared rfl rfl rfl ⟨?_, ?_⟩ (fun _ => rfl) id (fun hu => by cases hu.2.1) <;>
      dsimp only [Runtime.fault] <;> split_ifs <;> rfl
  | fault =>
    exact spans_cleared rfl rfl rfl ⟨rfl, rfl⟩ (fun _ => rfl) id (fun hu => by cases hu.2.1)
  | allocate kind core val => exact h.spans_minted (h.balanced.alloc kind core _ val)
  | close hc =>
    exact spans_cleared (append_nil _).symm rfl rfl ⟨rfl, rfl⟩ id (fun _ => rfl)
      (fun hu => by simp [hc] at hu)
  | dispatch _ _ _ htn => cases htn <;> exact h.spans_same rfl rfl rfl ⟨rfl, rfl⟩ rfl rfl
  | worker _ htn =>
    cases htn with
    | inspect job prog _ _ _ hw hst =>
      obtain ⟨ep, hep, hwit⟩ := h.minting job prog hw
      exact { h.spans_minted ((hwit.advance hst).1 h.balanced) with }
    | _ => exact h.spans_same rfl rfl rfl ⟨rfl, rfl⟩ rfl rfl
  | _ => exact h.spans_same rfl rfl rfl ⟨rfl, rfl⟩ rfl rfl

/-- The rest of a run. -/
theorem References.spans_moves (hb : r.Base) (ht : r.Traffic) (h : r.References)
    (hm : Moves noStaleAllocation r r') : r'.References ∧ r.Spans r' := by
  have hinv (s s' : Runtime) (hb : s.Base) (hs : s.Traffic ∧ s.References ∧ r.Spans s)
      (hm : Move noStaleAllocation s s') : s'.Traffic ∧ s'.References ∧ r.Spans s' := by
    obtain ⟨ht, href, hspa⟩ := hs
    exact ⟨ht.move hm, References.move hb ht href hm, hspa.trans (href.spans hm)⟩
  have hrefl : r.Spans r := h.spans_same rfl rfl rfl ⟨rfl, rfl⟩ rfl rfl
  exact (hm.invariant hinv hb ⟨ht, h, hrefl⟩).2

/-! ### The step that mints -/

def unminted : Guard where
  allocate _ := False
  inspected _ := False

lemma Move.issued (hm : Move unminted r r') : r'.ledger.issued = r.ledger.issued := by
  cases hm with
  | sample | bootstrap => rw [absorb_eq]; dsimp only; split_ifs <;> rfl
  | reducerErr => rw [actions_eq]; dsimp only; split_ifs <;> rfl
  | reducerFault => rw [actions_eq]; dsimp only [Runtime.fault]; split_ifs <;> rfl
  | allocate _ _ _ _ hg => exact hg.elim
  | dispatch _ _ _ htn => cases htn <;> rfl
  | worker _ htn hg =>
    cases htn with
    | inspect job prog _ _ rp hw hst =>
      exact (hg job prog rp hw (by simp [hst])).elim
    | _ => rfl
  | _ => rfl

lemma Moves.issued (hm : Moves unminted r r') : r'.ledger.issued = r.ledger.issued := by
  induction hm with
  | refl => rfl
  | tail _ hla ih => exact hla.issued.trans ih

lemma minting_input (hb : r.Base) {i : Input} (hst : r.step i = some r')
    (hne : r'.ledger.issued ≠ r.ledger.issued) :
    (∃ kind core val rp, i = .command (.allocateHandle kind core val rp)) ∨
      ∃ rp, i = .worker (.inspect rp) := by
  by_contra hno
  simp only [not_or, not_exists] at hno
  have had : unminted.Admits r i := by
    cases i with
    | command c =>
      cases c with
      | allocateHandle kind core val rp => exact (hno.1 kind core val rp rfl).elim
      | _ => simp [Guard.Admits, unminted]
    | completion => exact fun _ _ => ⟨trivial, trivial⟩
    | worker turn =>
      cases turn with
      | inspect rp => exact (hno.2 rp rfl).elim
      | _ => trivial
    | _ => trivial
  exact hne (Moves.issued (step_moves hb had hst))

variable {g : Handle Payload}

lemma minted_valid {ep : UInt64}
    (hm : Ledger.Minted ep r.ledger led) (hs : r.models.reducer.state = .stopped)
    (hlive : r.faulted = false) (hg : g ∈ led.issued) (hold : g ∉ r.ledger.issued) :
    g ∈ (r.withLedger led).valid ∧ g.stopEpoch = ep := by
  cases hm with
  | refused => exact absurd hg hold
  | minted g' _ hep _ _ _ hiss =>
    obtain rfl : g = g' := by
      rw [hiss] at hg
      simpa [hold] using hg
    refine ⟨?_, hep⟩
    unfold Runtime.withLedger
    rw [if_pos ⟨hs, hlive⟩, hiss, drop_left]
    exact mem_append_right _ (mem_singleton_self g)

/-- A handle that a step mints in a stop is valid at once. The state between the minting and the
rest of the step is the one its life begins in. -/
lemma References.minted_step (hb : r.Base) (ht : r.Traffic) (h : r.References) {i : Input}
    (had : noStaleAllocation.Admits r i) (hst : r.step i = some r')
    (hs : r.models.reducer.state = .stopped) (hlive : r.faulted = false)
    (hg : g ∈ r'.ledger.issued) (hold : g ∉ r.ledger.issued) :
    ∃ r₀, Moves noStaleAllocation r r₀ ∧ Moves noStaleAllocation r₀ r' ∧
      r₀.published = r.published ∧ r₀.closing = r.closing ∧ g ∈ r₀.valid ∧
      g.stopEpoch = r.models.reducer.stopEpoch := by
  have hne : r'.ledger.issued ≠ r.ledger.issued := fun heq => hold (heq ▸ hg)
  rcases minting_input hb hst hne with ⟨kind, core, val, rp, rfl⟩ | ⟨rp, rfl⟩
  · generalize hmint : (r.ledger.alloc kind core r.models.reducer.stopEpoch val).1 = led
    have hm : Ledger.Minted r.models.reducer.stopEpoch r.ledger led :=
      hmint ▸ h.balanced.alloc kind core _ val
    have hmove : Move noStaleAllocation r (r.withLedger led) :=
      hmint ▸ .allocate kind core val hs (had hs)
    obtain ⟨ans, err, heq⟩ : ∃ ans err,
        r.applyAllocateHandle kind core val rp = (r.withLedger led).respond rp ans err := by
      have hs' : r.snapshot.state = .stopped := hs
      simp only [applyAllocateHandle, hs', ne_eq, not_true_eq_false, if_false, ← hmint]
      split <;> exact ⟨_, _, rfl⟩
    have htn : r' = ((r.withLedger led).respond rp ans err).startNext := by
      simp only [step, turn, apply, heq] at hst
      split_ifs at hst
      exact (Option.some.inj hst).symm
    have hrs (G : Guard) : Moves G (r.withLedger led) r' := by
      have hans : Moves G (r.withLedger led)
          ((r.withLedger led).respond rp ans err) := moves_respond rp ans err
      rw [htn]
      exact hans.trans (moves_startNext ((hb.move hmove).moves hans))
    have hiss : (r.withLedger led).ledger.issued = led.issued := by rw [withLedger_eq]
    rw [Moves.issued (hrs unminted), hiss] at hg
    obtain ⟨hva, hep⟩ := minted_valid hm hs hlive hg hold
    refine ⟨r.withLedger led, .single hmove, hrs _, ?_, ?_, hva, hep⟩ <;>
      unfold Runtime.withLedger <;> split_ifs <;> rfl
  · have hmov := step_moves hb had hst
    simp only [step, workerTurn] at hst
    split at hst
    · rename_i job prog hw
      obtain ⟨⟨led, next⟩, hadv, rfl⟩ := map_eq_some_iff.mp hst
      obtain ⟨ep, hins, hwit⟩ := h.minting job prog hw
      have hiss : (r.withLedger led).ledger.issued = led.issued := by rw [withLedger_eq]
      obtain ⟨hva, hep⟩ := minted_valid ((hwit.advance hadv).1 h.balanced) hs hlive (hiss ▸ hg) hold
      have hcur := (h.mints ht hw hins hlive).1
      refine ⟨_, hmov, .refl, ?_, ?_, hva, hep.trans hcur.symm⟩ <;>
        unfold Runtime.withLedger <;> split_ifs <;> rfl
    · cases hst

/-! ### What resolves -/

lemma References.resolve_iff (h : r.References) {g' : Handle Payload} (hg : g ∈ r.counted)
    {stopEpoch : UInt64} {stopped : Bool} : r.ledger.store.resolve g.id stopEpoch stopped = .ok g' ↔
      g' = g ∧ stopped = true ∧ stopEpoch = g.stopEpoch ∧ g ∈ r.valid := by
  rw [Store.resolve_eq_ok]
  by_cases hv : g ∈ r.valid
  · rw [h.held g hv]
    constructor
    · rintro ⟨⟨⟩, hs, rfl⟩
      exact ⟨rfl, hs, rfl, hv⟩
    · rintro ⟨rfl, hs, rfl, -⟩
      exact ⟨rfl, hs, rfl⟩
  · simp [h.gone g hg hv, hv]

/-- In every run in which no handle is allocated while a stale inspection request waits, a handle
that is minted in a stop resolves, as it was minted and under that stop epoch alone, until an
invalidation is published, the session fails closed or it is closed. Ids are positive, they increase
and nothing but what was issued under an id resolves to it. A store that is exhausted stays so. -/
theorem handle_lifetime {opts : Options} {inputs later : List Input} {i : Input} {r₁ : Runtime}
    (hru : run step (new opts) inputs = some r) (hst : r.step i = some r₁)
    (hlt : run step r₁ later = some r')
    (hnn : Along step noStaleAllocation.Admits (new opts) (inputs ++ i :: later)) :
    (r.models.reducer.state = .stopped → r.faulted = false →
      ∀ g ∈ r₁.ledger.issued, g ∉ r.ledger.issued → g.stopEpoch = r.models.reducer.stopEpoch ∧
        ∃ events, r'.published = r.published ++ events ∧
          ∀ stopEpoch stopped g', r'.ledger.store.resolve g.id stopEpoch stopped = .ok g' ↔
            g' = g ∧ stopped = true ∧ stopEpoch = g.stopEpoch ∧ Undisturbed events ∧
              r'.faulted = false ∧ r'.closing = r.closing) ∧
      (r'.ledger.issued.map Handle.id).Pairwise (· < ·) ∧
      (∀ g ∈ r'.ledger.issued, 0 < g.id ∧ g.id ≤ maxID) ∧ r.ledger.issued <+: r'.ledger.issued ∧
      (∀ id stopEpoch stopped g, r'.ledger.store.resolve id stopEpoch stopped = .ok g →
        g ∈ r'.ledger.issued ∧ g.id = id) ∧ ∀ kind core stopEpoch value err,
        (r.ledger.alloc kind core stopEpoch value).2 = .error err →
        ∀ kind core stopEpoch value, r'.ledger.alloc kind core stopEpoch value = (r'.ledger,
            .error (.under s!"alloc kind={kind.code} core={core}" (.of .handlesExhausted))) := by
  obtain ⟨hbe, had, haft⟩ := (along_append hru).mp hnn
  obtain ⟨hb, ht, href⟩ := traffic_invariant (fun _ _ => References.move) (references_new opts)
    hbe hru
  have hst' := step_moves hb had hst
  have hmov : Moves noStaleAllocation r₁ r' := run_moves (hb.moves hst') (haft r₁ hst) hlt
  obtain ⟨href', hspa⟩ := References.spans_moves hb ht href (hst'.trans hmov)
  have hbal : r'.ledger.store.Accounts r'.ledger.issued := href'.balanced
  refine ⟨fun hs hlive g hg hold => ?_, hbal.increasing, hbal.positive, hspa.issued, ?_, ?_⟩
  · obtain ⟨r₀, hto, hfrom, hpub, hcl, hva, hep⟩ :=
      References.minted_step hb ht href had hst hs hlive hg hold
    have href₀ := (References.spans_moves hb ht href hto).1
    have ht₀ : r₀.Traffic := hto.invariant (fun _ _ _ h hm => Traffic.move h hm) hb ht
    obtain ⟨-, hlife⟩ := References.spans_moves (hb.moves hto) ht₀ href₀ (hfrom.trans hmov)
    obtain ⟨events, heve, hiff⟩ := hlife.valid
    have hco := href₀.counted g hva
    refine ⟨hep, events, hpub ▸ heve, fun stopEpoch stopped g' => ?_⟩
    rw [href'.resolve_iff (hlife.counted g hco), hiff g hco, hcl]
    simp [hva]
  · intro id stopEpoch stopped g hok
    exact (hbal.held id g (Store.resolve_eq_ok.mp hok).1).symm
  intro kind core stopEpoch value err hrr kind' core' stopEpoch' value'
  have hgone : r.ledger.store.next ≤ 0 := by
    by_contra hn
    simp [Ledger.alloc, Store.alloc, hn] at hrr
  simp [Ledger.alloc, Store.alloc_exhausted (hspa.exhausted hgone)]

def allocation : Input := .command (.allocateHandle .var 0 (.other 7) 1)

def allocated (stopEpoch : UInt64) : Handle Payload := ⟨1, .var, 0, stopEpoch, .other 7⟩

/-- The target is sampled in its first stop. -/
def sampledAgain : List Input :=
  .stateTick :: perform 4 (.ok (.evidence (stampedEvidence .stopped 1)))

theorem handle_lifetime_one_stop :
    ∃ r r₁ r', run step (new {}) (bootstrap (stampedEvidence .stopped 1)) = some r ∧
      r.step allocation = some r₁ ∧ run step r₁ sampledAgain = some r' ∧
      Along step noStaleAllocation.Admits (new {})
        (bootstrap (stampedEvidence .stopped 1) ++ allocation :: sampledAgain) ∧
      r.models.reducer.state = .stopped ∧ r.faulted = false ∧
      r'.ledger.store.resolve 1 1 true = .ok (allocated 1) := by
  have hnn : Along step noStaleAllocation.Admits (new {})
      (bootstrap (stampedEvidence .stopped 1) ++ allocation :: sampledAgain) := by
    decide +kernel
  obtain ⟨r, hru, hs, hlive, hiss, hsome⟩ : ∃ r,
      run step (new {}) (bootstrap (stampedEvidence .stopped 1)) = some r ∧
      r.models.reducer.state = .stopped ∧ r.faulted = false ∧ r.ledger.issued = [] ∧
      (r.step allocation).any (fun r₁ => decide (r₁.ledger.issued = [allocated 1] ∧
        ((run step r₁ sampledAgain).any fun r' => decide (r'.published = r.published ∧
          r'.faulted = false ∧ r'.closing = r.closing)) = true)) = true :=
    exists_run (by decide +kernel)
  obtain ⟨r₁, hst, hiss₁, hsome⟩ := exists_run hsome
  obtain ⟨r', hlt, hpub, hlv', hcl⟩ := exists_run hsome
  obtain ⟨hep, events, heve, hres⟩ := (handle_lifetime hru hst hlt hnn).1 hs hlive
    (allocated 1) (by simp [hiss₁]) (by simp [hiss])
  obtain rfl : events = [] := by simpa [hpub] using heve
  exact ⟨r, r₁, r', hru, hst, hlt, hnn, hs, hlive,
    (hres 1 true _).mpr ⟨rfl, rfl, rfl, by simp [Undisturbed], hlv', hcl⟩⟩

/-- A session that answers inspection requests. -/
def inspecting : Options :=
  { inspection := true, sourceMap := some fun _ => .error (.of .canceled) }

/-- A request for a stack is made in the first stop and waits behind a poll. Before the poll begins,
a sample shows that the target has run and stopped again. -/
def stackBehindPoll : List Input :=
  bootstrap (stampedEvidence .stopped 1) ++
    [.stateTick, .command (.poll 2), .command (.stack 1 ⟨0, 1⟩ 3)] ++
    perform 4 (.ok (.evidence (stampedEvidence .stopped 2)))

def pollEnds : List Input := perform 5 (.ok (.evidence (stampedEvidence .stopped 2)))

/-- A handle of the second stop is lost when the request of the first one is answered: nothing is
published, the session goes on, and the handle does not resolve. -/
theorem handle_lost : ∃ r r₁ r', run step (new inspecting) stackBehindPoll = some r ∧
      r.step allocation = some r₁ ∧ run step r₁ pollEnds = some r' ∧
      r.models.reducer.state = .stopped ∧ r.faulted = false ∧ r.ledger.issued = [] ∧
      r₁.ledger.issued = [allocated 2] ∧ r'.published = r.published ∧ r'.faulted = false ∧
      r'.closing = false ∧ (r'.ledger.store.resolve 1 2 true).toOption = none := by
  obtain ⟨r, hru, hs, hlive, hiss, hsome⟩ : ∃ r,
      run step (new inspecting) stackBehindPoll = some r ∧
      r.models.reducer.state = .stopped ∧ r.faulted = false ∧ r.ledger.issued = [] ∧
      (r.step allocation).any (fun r₁ => decide (r₁.ledger.issued = [allocated 2] ∧
        ((run step r₁ pollEnds).any fun r' => decide (r'.published = r.published ∧
          r'.faulted = false ∧ r'.closing = false ∧
          (r'.ledger.store.resolve 1 2 true).toOption = none)) = true)) = true :=
    exists_run (by decide +kernel)
  obtain ⟨r₁, hst, hiss₁, hsome⟩ := exists_run hsome
  obtain ⟨r', hlt, hlost⟩ := exists_run hsome
  exact ⟨r, r₁, r', hru, hst, hlt, hs, hlive, hiss, hiss₁, hlost⟩

end Runtime

end MultiDap.Actor
