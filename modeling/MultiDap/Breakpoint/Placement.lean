import MultiDap.Breakpoint.Flight

/-!
# Placing and clearing in flight

What the loops of a transaction do, for every behaviour of the placer: the placement of one
logical breakpoint on its cores with its rollback, the placement of all added lines, and the
clearing of old lines.
-/

namespace MultiDap.Breakpoint

open Source Machine Prog World List Option Function

/-! ### Answers -/

variable {w u : World} {x : Reply}

lemma perform_token {τ : Request.Answer .token} (h : World.env.perform w .token x = some (u, τ)) :
    ∃ s, w.store.newHintToken τ = some s ∧ u = { w with store := s } := by
  cases x with
  | token =>
    obtain ⟨s, hs, heq⟩ := map_eq_some_iff.mp h
    obtain ⟨rfl, rfl⟩ := Prod.mk.inj heq
    exact ⟨s, hs, rfl⟩
  | set | clear | resolve => cases h

lemma perform_set {r : PlacementRequest} {o : Request.Answer (.set r)}
    (h : World.env.perform w (.set r) x = some (u, o)) : u = w.record (.set r o.1 o.2) := by
  cases x with
  | set =>
    obtain ⟨rfl, rfl⟩ := Prod.mk.inj (Option.some.inj h)
    rfl
  | token | clear | resolve => cases h

lemma perform_clear {p : Physical} {o : Request.Answer (.clear p)}
    (h : World.env.perform w (.clear p) x = some (u, o)) : u = w.record (.clear p o) := by
  cases x with
  | clear =>
    obtain ⟨rfl, rfl⟩ := Prod.mk.inj (Option.some.inj h)
    rfl
  | token | set | resolve => cases h

/-! ### What the steps guarantee -/

variable {τ : UInt32}

namespace World

variable {ow : Owner} {w : World} {e : Event}

lemma Touches.refl (ow : Owner) (w : World) : Touches ow w w where
  cleanupOwners := rfl
  hintTokens := fun _ h => h
  live := rfl
  pending := rfl
  orphaned := rfl
  log := ⟨[], by simp, by simp⟩
  issued := ⟨[], by simp, by simp⟩

lemma touches_record (h : ∀ p err, e = .clear p err → p.owner = ow) : Touches ow w (w.record e) :=
  { Touches.refl ow w with
    log := ⟨[e], rfl, fun p err hin => h p err (mem_singleton.mp hin).symm⟩ }

lemma touches_token {s : Store} (hs : w.store.newHintToken τ = some s) :
    Touches ow w { w with store := s } := by
  simp only [Store.newHintToken] at hs
  split_ifs at hs
  cases hs
  refine { Touches.refl ow w with hintTokens := fun σ hσ => ?_ }
  by_cases heq : σ = τ
  · simp [heq]
  · simpa [update_of_ne heq] using hσ

lemma Sweeps.refl (w : World) : Sweeps w w := ⟨⟨rfl, fun _ h => h⟩, rfl, rfl⟩

lemma sweeps_record : Sweeps w (w.record e) := { Sweeps.refl w with }

end World

def Event.line : Event → Int
  | .set request _ _ => request.line
  | .clear physical _ => physical.requestedLine

section

variable {ow : Owner} {src : Identity} {line : Int} {start w : World}
variable {es seg : List Event} {hand gone created : List Physical} {p : Physical}

/-- A fresh token, known to nobody but the transaction. -/
def Drawn (τ : UInt32) (hand : List Physical) (w : World) : Prop :=
  τ ≠ 0 ∧ w.store.hintTokens τ = true ∧ τ ∉ tokens (w.store.tracked ++ hand)

variable {hand' : List Physical}

lemma Flight.record {e : Event} {gone' : List Physical} (h : Flight ow start es hand gone w)
    (hb : Balanced (present (w.log ++ [e])) hand' gone' w.store) :
    Flight ow start (es ++ [e]) hand' gone' (w.record e) where
  sound := { h.sound with }
  held := hb
  log := by simp [World.record, h.log]
  issued := h.issued
  nextDAPID := h.nextDAPID
  orphaned := h.orphaned
  pending := h.pending
  live := h.live
  steady := h.steady
  swept := h.swept

lemma Flight.drawn {s : Store} (h : Flight ow start es hand gone w)
    (hs : w.store.newHintToken τ = some s) :
    Flight ow start es hand gone { w with store := s } ∧ Drawn τ hand { w with store := s } := by
  simp only [Store.newHintToken] at hs
  split_ifs at hs with h₀ hiss
  obtain rfl : { w.store with hintTokens := update w.store.hintTokens τ true } = s := by
    simpa using hs
  have hkn : ∀ x, w.store.hintTokens x = true →
      update w.store.hintTokens τ true x = true := by
    intro x hx
    by_cases hxτ : x = τ
    · simp [hxτ]
    · rwa [update_of_ne hxτ]
  refine ⟨?_, h₀, by simp, fun hin => hiss ?_⟩
  · refine { h with sound := ?_, held := ?_ }
    · exact { h.sound with }
    · exact ⟨h.held.nodup, fun x hx => ⟨(h.held.known x hx).1, hkn _ (h.held.known x hx).2⟩,
        h.held.balance⟩
  -- a tracked token would have been issued before
  obtain ⟨q, hq, rfl⟩ := mem_map.mp hin
  refine (h.held.known q.site ?_).2
  rw [Store.holds, ← sites_append]
  exact mem_sites hq

lemma Flight.holds_drawn :
    Holds Detaches Sound fun w => Flight ow start es hand gone w ∧ Drawn τ hand w where
  stable := by
    rintro s t ⟨other, visit, rfl⟩ ⟨h, h₀, hkn, hfr⟩
    refine ⟨h.detach other visit, h₀, ?_⟩
    rcases h.held.detach_cases other visit with heq | ⟨out, hw⟩
    · rw [heq]
      exact ⟨hkn, hfr⟩
    rw [hw.hintTokens]
    refine ⟨hkn, ?_⟩
    simp only [tokens_append, mem_append] at hfr ⊢
    rwa [hw.tokens_tracked.mem_iff]
  now := fun _ h => h.1.sound

/-! ### The segment of one line -/

/-- Every placement of the segment that may exist was cleared in it or is among the records. -/
def Accounts (seg : List Event) (records : List Physical) : Prop :=
  ∀ request physical err, Event.set request physical err ∈ seg → mayExist physical err = true →
    (∃ q, Event.clear q none ∈ seg ∧ q.site = request.site) ∨ request.site ∈ sites records

variable {request : PlacementRequest} {err : Option Error}

variable {physical : Physical}

lemma Accounts.set (h : Accounts seg created) (hp : p.site = request.site) :
    Accounts (seg ++ [.set request physical err]) (created ++ [p]) := by
  intro r q e hin hmay
  rcases mem_append.mp hin with hin | hin
  · refine (h r q e hin hmay).imp (fun ⟨c, hc, hs⟩ => ⟨c, mem_append_left _ hc, hs⟩) ?_
    intro hme
    rw [sites_append]
    exact Multiset.mem_add.mpr (.inl hme)
  obtain ⟨rfl, -, -⟩ : r = request ∧ q = physical ∧ e = err := by simpa using hin
  right
  rw [sites_append, ← hp]
  exact Multiset.mem_add.mpr (.inr (Multiset.mem_singleton_self _))

lemma Accounts.set_failed (h : Accounts seg created) (hmay : mayExist physical err = false) :
    Accounts (seg ++ [.set request physical err]) created := by
  intro r q e hin hmay'
  rcases mem_append.mp hin with hin | hin
  · exact (h r q e hin hmay').imp_left fun ⟨c, hc, hs⟩ => ⟨c, mem_append_left _ hc, hs⟩
  obtain ⟨rfl, rfl, rfl⟩ : r = request ∧ q = physical ∧ e = err := by simpa using hin
  rw [hmay] at hmay'
  cases hmay'

lemma Accounts.cleared {recs : List Physical} (h : Accounts seg recs)
    (hsub : ∀ x ∈ sites recs, x = p.site ∨ x ∈ sites created) :
    Accounts (seg ++ [.clear p none]) created := by
  intro r q e hin hmay
  have hin : Event.set r q e ∈ seg := by simpa using hin
  rcases h r q e hin hmay with ⟨c, hc, hs⟩ | hme
  · exact .inl ⟨c, mem_append_left _ hc, hs⟩
  rcases hsub _ hme with heq | hme
  · exact .inl ⟨p, by simp, heq.symm⟩
  · exact .inr hme

lemma Accounts.clear_failed {err : Error} (h : Accounts seg created) :
    Accounts (seg ++ [.clear p (some err)]) created := by
  intro r q e hin hmay
  have hin : Event.set r q e ∈ seg := by simpa using hin
  exact (h r q e hin hmay).imp_left fun ⟨c, hc, hs⟩ => ⟨c, mem_append_left _ hc, hs⟩

/-- What a line's part of the log and its records satisfy. -/
structure Segment (owner : Owner) (line : Int) (seg : List Event) (records : List Physical) :
    Prop where
  accounts : Accounts seg records
  about : ∀ e ∈ seg, e.line = line
  own : ∀ p ∈ records, p.owner = owner ∧ p.requestedLine = line

/-- The records that are left in hand after a placement. -/
def PlacementOutcome.records (out : PlacementOutcome) : List Physical :=
  out.logical.physical ++ out.rollbackFailed

/-- What the placement of one logical breakpoint comes to. -/
structure Placed (owner : Owner) (src : Identity) (line : Int) (cores : List Int)
    (seg : List Event) (out : PlacementOutcome) : Prop where
  identity : out.logical.owner = owner ∧ out.logical.source = src ∧ out.logical.line = line
  segment : Segment owner line seg out.records
  verified : out.logical.verified = true →
    out.rollbackFailed = [] ∧ out.logical.physical.map (·.core) = cores ∧
      ∀ p ∈ out.logical.physical, ∀ q ∈ out.logical.physical, p.actualLine = q.actualLine
  unverified : out.logical.verified = false → out.logical.physical = []

lemma holds_segment {out : List Physical} :
    Holds Detaches Sound fun w => ∃ seg, Segment ow line seg out ∧
      Flight ow start (es ++ seg) (out ++ hand) [] w :=
  Holds.exists fun _ => Flight.holds.pure_and

variable {cores : List Int} {out : PlacementOutcome}

lemma holds_placed : Holds Detaches Sound fun w => ∃ seg, Placed ow src line cores seg out ∧
      Flight ow start (es ++ seg) (out.records ++ hand) [] w :=
  Holds.exists fun _ => Flight.holds.pure_and

lemma safe_clearCreated (ps bad : List Physical) (seg : List Event) (w : World)
    (hseg : Segment ow line seg (bad ++ ps))
    (h : Flight ow start (es ++ seg) (bad ++ ps ++ hand) [] w) :
    Safe World.env Detaches (Touches ow) Sound
      (fun out w => ∃ seg, Segment ow line seg out ∧ Flight ow start (es ++ seg) (out ++ hand) [] w)
      (clearCreated ps bad) w := by
  induction ps generalizing bad seg w with
  | nil =>
    rw [append_nil] at hseg h
    exact safe_ret holds_segment ⟨seg, hseg, h⟩
  | cons p ps ih =>
    refine safe_ask Flight.holds h fun t x u err ht hx => ?_
    obtain rfl := perform_clear hx
    have hp := hseg.own p (by simp)
    refine ⟨touches_record fun q e heq => (Event.clear.inj heq).1 ▸ hp.1, ?_⟩
    have habo : ∀ e ∈ seg ++ [Event.clear p err], e.line = line := by
      intro e he
      rcases mem_append.mp he with he | he
      · exact hseg.about e he
      · rw [mem_singleton.mp he]
        exact hp.2
    have hperm : (bad ++ p :: ps ++ hand).Perm (p :: (bad ++ ps ++ hand)) := by
      simp [perm_middle]
    have hbal := Balanced.perm ht.held hperm.symm
    cases err with
    | none =>
      change Safe _ _ _ _ _ (clearCreated ps bad) _
      refine ih bad (seg ++ [.clear p none]) _ ⟨?_, habo, ?_⟩ ?_
      · refine hseg.accounts.cleared fun x hx => ?_
        simpa [or_left_comm] using hx
      · intro q hq
        refine hseg.own q ?_
        simp only [mem_append, mem_cons] at hq ⊢
        exact hq.imp_right .inr
      rw [← append_assoc]
      refine ht.record ?_
      rw [present_concat]
      exact hbal.clearHand (by simp)
    | some e =>
      have hass : bad ++ [p] ++ ps = bad ++ p :: ps := by simp
      change Safe _ _ _ _ _ (clearCreated ps (bad ++ [p])) _
      refine ih (bad ++ [p]) (seg ++ [.clear p (some e)]) _ ⟨?_, habo, ?_⟩ ?_
      · rw [hass]
        exact hseg.accounts.clear_failed
      · rw [hass]
        exact hseg.own
      rw [hass, ← append_assoc]
      refine ht.record ?_
      rw [present_concat]
      exact ht.held

lemma safe_rollbackPlacement {logical : Logical} {failure : String}
    (hid : logical.owner = ow ∧ logical.source = src ∧ logical.line = line)
    (hnn : logical.physical = [] ∧ logical.verified = false) (hseg : Segment ow line seg created)
    (h : Flight ow start (es ++ seg) (created ++ hand) [] w) :
    Safe World.env Detaches (Touches ow) Sound
      (fun out w => ∃ seg, Placed ow src line cores seg out ∧
        Flight ow start (es ++ seg) (out.records ++ hand) [] w)
      (rollbackPlacement logical created failure) w := by
  refine safe_bind ((safe_clearCreated created [] seg w hseg h).mono ?_)
  rintro bad w ⟨seg, hseg, h⟩
  have hrec : PlacementOutcome.records
      ⟨{ logical with message := "rolled back: " ++ failure }, bad⟩ = bad := by
    simp [PlacementOutcome.records, hnn.1]
  refine safe_ret holds_placed ⟨seg, ⟨hid, ?_, ?_, ?_⟩, ?_⟩
  · rw [hrec]
    exact hseg
  · intro hv
    rw [hnn.2] at hv
    cases hv
  · exact fun _ => hnn.1
  · rw [hrec]
    exact h

lemma actualLine_eq_of_divergence (h : divergence created = none) :
    ∀ p ∈ created, ∀ q ∈ created, p.actualLine = q.actualLine := by
  cases created with
  | nil => simp
  | cons first rest =>
    have hfir : ∀ p ∈ first :: rest, p.actualLine = first.actualLine := by
      intro p hp
      rcases mem_cons.mp hp with rfl | hp
      · rfl
      · simpa [divergence] using find?_eq_none.mp (map_eq_none_iff.mp h) p hp
    intro p hp q hq
    rw [hfir p hp, hfir q hq]

lemma Segment.set (hseg : Segment ow line seg created) (hln : request.line = line) :
    Segment ow line (seg ++ [.set request physical err])
      (created ++ [request.own ow physical]) where
  accounts := hseg.accounts.set rfl
  about := by
    intro e he
    rcases mem_append.mp he with he | he
    · exact hseg.about e he
    · rw [mem_singleton.mp he]
      exact hln
  own := by
    intro p hp
    rcases mem_append.mp hp with hp | hp
    · exact hseg.own p hp
    · rw [mem_singleton.mp hp]
      exact ⟨rfl, hln⟩

lemma Segment.set_failed (hseg : Segment ow line seg created) (hln : request.line = line)
    (hmay : mayExist physical err = false) :
    Segment ow line (seg ++ [.set request physical err]) created where
  accounts := hseg.accounts.set_failed hmay
  about := by
    intro e he
    rcases mem_append.mp he with he | he
    · exact hseg.about e he
    · rw [mem_singleton.mp he]
      exact hln
  own := hseg.own

lemma Flight.set (h : Flight ow start (es ++ seg) (created ++ hand) [] w)
    (hd : Drawn request.hintToken (created ++ hand) w) (hmay : mayExist physical err = true) :
    Flight ow start (es ++ (seg ++ [.set request physical err]))
      (created ++ [request.own ow physical] ++ hand) [] (w.record (.set request physical err)) := by
  rw [← append_assoc]
  refine h.record ?_
  rw [present_concat, Event.apply, if_pos hmay]
  refine (Balanced.set (p := request.own ow physical) h.held rfl hd.1 hd.2.1 hd.2.2).perm ?_
  simp [perm_middle]

lemma Flight.set_failed
    (h : Flight ow start (es ++ seg) hand gone w) (hmay : mayExist physical err = false) :
    Flight ow start (es ++ (seg ++ [.set request physical err])) hand gone
      (w.record (.set request physical err)) := by
  rw [← append_assoc]
  refine h.record ?_
  rw [present_concat, Event.apply, hmay]
  exact h.held

lemma safe_placeLogical (cores : List Int) (created : List Physical) (seg : List Event) (w : World)
    (hseg : Segment ow line seg created) (h : Flight ow start (es ++ seg) (created ++ hand) [] w) :
    Safe World.env Detaches (Touches ow) Sound
      (fun out w => ∃ seg, Placed ow src line (created.map (·.core) ++ cores) seg out ∧
        Flight ow start (es ++ seg) (out.records ++ hand) [] w)
      (placeLogical ow src line cores created) w := by
  induction cores generalizing created seg w with
  | nil =>
    unfold placeLogical
    split
    · exact safe_rollbackPlacement ⟨rfl, rfl, rfl⟩ ⟨rfl, rfl⟩ hseg h
    rename_i hdiv
    refine safe_ret holds_placed ⟨seg, ⟨⟨rfl, rfl, rfl⟩, ?_, ?_, ?_⟩, ?_⟩
    · simpa [PlacementOutcome.records] using hseg
    · intro _
      exact ⟨rfl, by simp, actualLine_eq_of_divergence hdiv⟩
    · exact fun hv => by cases hv
    · simpa [PlacementOutcome.records] using h
  | cons core cores ih =>
    refine safe_ask Flight.holds h fun t x u τ ht hx => ?_
    obtain ⟨s, hs, rfl⟩ := perform_token hx
    refine ⟨touches_token hs, ?_⟩
    refine safe_ask Flight.holds_drawn (ht.drawn hs) fun t' x' u' o ht' hx' => ?_
    obtain rfl := perform_set hx'
    refine ⟨touches_record (by simp), ?_⟩
    obtain ⟨hfl, hd⟩ := ht'
    obtain ⟨physical, err⟩ := o
    generalize hr : PlacementRequest.mk src line core τ = request
    replace hd : Drawn request.hintToken (created ++ hand) t' := hr ▸ hd
    have hln : request.line = line := by rw [← hr]
    have hdn : (created ++ [request.own ow physical]).map (·.core) ++ cores =
        created.map (·.core) ++ core :: cores := by
      simp [PlacementRequest.own, ← hr]
    cases err with
    | some err =>
      by_cases hc : physical.possiblyCommitted = true
      · change Safe _ _ _ _ _
          (rollbackPlacement _ (if physical.possiblyCommitted then _ else _) _) _
        rw [if_pos hc]
        exact safe_rollbackPlacement ⟨rfl, rfl, rfl⟩ ⟨rfl, rfl⟩ (hseg.set hln)
          (hfl.set hd (by simp [mayExist, hc]))
      change Safe _ _ _ _ _ (rollbackPlacement _ (if physical.possiblyCommitted then _ else _) _) _
      rw [if_neg hc]
      have hmay : mayExist physical (some err) = false := by simpa [mayExist] using hc
      exact safe_rollbackPlacement ⟨rfl, rfl, rfl⟩ ⟨rfl, rfl⟩ (hseg.set_failed hln hmay)
        (hfl.set_failed hmay)
    | none =>
      change Safe _ _ _ _ _ (if physical.possiblyCommitted then _ else _) _
      split_ifs
      · exact safe_rollbackPlacement ⟨rfl, rfl, rfl⟩ ⟨rfl, rfl⟩ (hseg.set hln) (hfl.set hd rfl)
      · rw [← hdn]
        exact ih _ _ _ (hseg.set hln) (hfl.set hd rfl)

/-! ### The loops of a replacement -/

lemma Flight.perm (h : Flight ow start es hand gone w)
    (hp : hand'.Perm hand) : Flight ow start es hand' gone w :=
  { h with held := Balanced.perm h.held hp }

/-- The lines that are placed, each with its part of the log. -/
def PlacedAll (owner : Owner) (src : Identity) (cores : List Int) (start : World)
    (lines : List Int) (placed : Int → PlacementOutcome) (segs : Int → List Event) (w : World) :
    Prop :=
  (∀ line ∈ lines, Placed owner src line cores (segs line) (placed line)) ∧
    Flight owner start (lines.flatMap segs) (lines.flatMap fun line => (placed line).records) [] w

variable {lines : List Int} {placed : Int → PlacementOutcome}

lemma PlacedAll.holds :
    Holds Detaches Sound fun w => ∃ segs, PlacedAll ow src cores start lines placed segs w :=
  Holds.exists fun _ => Flight.holds.pure_and

lemma flatMap_update {β : Type} (hln : line ∉ lines) (f : Int → List β)
    (xs : List β) : (lines ++ [line]).flatMap (Function.update f line xs) =
      lines.flatMap f ++ xs := by
  rw [flatMap_append, flatMap_singleton, update_self]
  congr 1
  refine flatMap_congr fun k hk => ?_
  rw [update_of_ne]
  rintro rfl
  exact hln hk

lemma PlacedAll.snoc {segs : Int → List Event} (hln : line ∉ lines)
    (hal : ∀ k ∈ lines, Placed ow src k cores (segs k) (placed k))
    (hou : Placed ow src line cores seg out) (h : Flight ow start (lines.flatMap segs ++ seg)
      (out.records ++ lines.flatMap fun k => (placed k).records) [] w) :
    PlacedAll ow src cores start (lines ++ [line]) (Function.update placed line out)
      (Function.update segs line seg) w := by
  refine ⟨?_, ?_⟩
  · intro k hk
    by_cases hkl : k = line
    · subst hkl
      rw [update_self, update_self]
      exact hou
    · rw [update_of_ne hkl, update_of_ne hkl]
      exact hal k (by simpa [hkl] using hk)
  have hrec : (fun k => (update placed line out k).records) =
      update (fun k => (placed k).records) line out.records := by
    funext k
    by_cases hkl : k = line
    · subst hkl
      rw [update_self, update_self]
    · rw [update_of_ne hkl, update_of_ne hkl]
  rw [hrec, flatMap_update hln, flatMap_update hln]
  exact h.perm perm_append_comm

lemma safe_placeAll (cores lines placedLines : List Int) (placed : Int → PlacementOutcome)
    (segs : Int → List Event) (w : World) (hnd : (placedLines ++ lines).Nodup)
    (h : PlacedAll ow src cores start placedLines placed segs w) :
    Safe World.env Detaches (Touches ow) Sound
      (fun placed w => ∃ segs, PlacedAll ow src cores start (placedLines ++ lines) placed segs w)
      (placeAll ow src cores lines placed) w := by
  induction lines generalizing placedLines placed segs w with
  | nil =>
    rw [append_nil]
    exact safe_ret PlacedAll.holds ⟨segs, h⟩
  | cons line lines ih =>
    have hln : line ∉ placedLines := by
      intro hin
      exact (nodup_append.mp hnd).2.2 line hin line mem_cons_self rfl
    have hfl : Flight ow start (placedLines.flatMap segs ++ [])
        ([] ++ placedLines.flatMap fun k => (placed k).records) [] w := by
      simpa using h.2
    have hemp : Segment ow line [] [] := ⟨by simp [Accounts], by simp, by simp⟩
    refine safe_bind ((safe_placeLogical cores [] [] w hemp hfl).mono ?_)
    rintro out w ⟨seg, hou, hfl⟩
    have hass : placedLines ++ line :: lines = placedLines ++ [line] ++ lines := by simp
    rw [hass] at hnd ⊢
    exact ih _ _ _ w hnd (PlacedAll.snoc hln h.1 hou hfl)

/-- The records that the answers say are cleared. -/
def clearedBy (clears : Clears) (ps : List Physical) : List Physical :=
  ps.filter fun p => clears p.hintToken == some none

/-- Where the clearing of old lines stands. Without a detach every record seen has been tried. -/
structure Clearing (owner : Owner) (start : World) (events : List Event) (hand : List Physical)
    (seen : List Physical) (clears : Clears) (seg : List Event) (w : World) : Prop where
  flight : Flight owner start (events ++ seg) hand (clearedBy clears seen) w
  tried : w.store.cleanupOwners owner = false → ∀ p ∈ seen, clears p.hintToken ≠ none
  untouched : ∀ τ ∉ tokens seen, clears τ = none
  about : ∀ e ∈ seg, ∃ p ∈ seen, e.line = p.requestedLine ∧ ∃ err, e = .clear p err

lemma fence_of_detach (h : w.Held hand gone) {other : Owner} {vis : Visit Logical}
    (hf : (w.detach other vis).store.cleanupOwners ow = false) :
    w.store.cleanupOwners ow = false := by
  rcases h.detach_cases other vis with heq | ⟨out, hw⟩
  · rwa [heq] at hf
  rw [hw.cleanupOwners] at hf
  by_cases ho : ow = other
  · simp [ho] at hf
  · rwa [update_of_ne ho] at hf

variable {seen : List Physical} {clears : Clears}

lemma Clearing.holds : Holds Detaches Sound (Clearing ow start es hand seen clears seg) where
  stable := by
    rintro s t ⟨other, visit, rfl⟩ h
    exact ⟨h.flight.detach other visit, fun hf => h.tried (fence_of_detach h.flight.held hf),
      h.untouched, h.about⟩
  now := fun _ h => h.flight.sound

lemma Flight.old_tracked (h : Flight ow start es hand gone w) {l : Logical}
    (hl : l ∈ start.store.live) (hon : l.owner = ow) (hp : p ∈ l.physical) :
    p.site ∈ sites w.store.tracked := by
  simp only [Store.tracked, sites_append, Multiset.mem_add]
  cases hf : w.store.cleanupOwners ow with
  | true => exact .inl (.inr (mem_sites (p := p.detached) (h.swept hf l hl hon p hp)))
  | false =>
    have hlive := h.steady hf l hl hon
    exact .inl (.inl (mem_sites (mem_flatMap.mpr ⟨l, hlive, hp⟩)))

lemma clearedBy_snoc_of_none
    (h : clears p.hintToken = none) : clearedBy clears (seen ++ [p]) = clearedBy clears seen := by
  simp [clearedBy, h]

lemma clearedBy_snoc_update (hp : p.hintToken ∉ tokens seen) :
    clearedBy (Function.update clears p.hintToken (some err)) (seen ++ [p]) =
      clearedBy clears seen ++ if err.isNone then [p] else [] := by
  have hseen : clearedBy (update clears p.hintToken (some err)) seen =
      clearedBy clears seen := by
    refine filter_congr fun q hq => ?_
    rw [update_of_ne]
    intro heq
    exact hp (heq ▸ mem_tokens hq)
  rw [clearedBy, filter_append]
  change clearedBy _ seen ++ _ = _
  rw [hseen]
  cases err <;> simp

lemma Clearing.skip
    (h : Clearing ow start es hand seen clears seg w) (hp : p.hintToken ∉ tokens seen)
    (hf : w.store.cleanupOwners ow = true) :
    Clearing ow start es hand (seen ++ [p]) clears seg w where
  flight := by
    rw [clearedBy_snoc_of_none (h.untouched _ hp)]
    exact h.flight
  tried := fun hf' => by
    rw [hf] at hf'
    cases hf'
  untouched := fun τ hτ => h.untouched τ fun hin => hτ (by simp [hin])
  about := by
    intro e he
    obtain ⟨q, hq, hln⟩ := h.about e he
    exact ⟨q, mem_append_left _ hq, hln⟩

lemma Clearing.answer {l : Logical}
    (h : Clearing ow start es hand seen clears seg w) (hp : p.hintToken ∉ tokens seen)
    (hl : l ∈ start.store.live) (hon : l.owner = ow) (hpl : p ∈ l.physical) :
    Clearing ow start es hand (seen ++ [p])
      (Function.update clears p.hintToken (some err)) (seg ++ [.clear p err])
      (w.record (.clear p err)) where
  flight := by
    rw [clearedBy_snoc_update hp, ← append_assoc]
    refine h.flight.record ?_
    rw [present_concat]
    cases err with
    | none =>
      refine Balanced.clearTracked h.flight.held (h.flight.old_tracked hl hon hpl) fun hin => hp ?_
      obtain ⟨q, hq, hsite⟩ := of_mem_sites hin
      have hto : q.hintToken = p.hintToken := congrArg Site.token hsite
      exact hto ▸ mem_tokens (mem_of_mem_filter hq)
    | some =>
      rw [isNone_some, if_neg Bool.false_ne_true, append_nil]
      exact h.flight.held
  tried := by
    intro hf q hq
    rcases mem_append.mp hq with hq | hq
    · have hne : q.hintToken ≠ p.hintToken := fun heq => hp (heq ▸ mem_tokens hq)
      rw [update_of_ne hne]
      exact h.tried hf q hq
    · rw [mem_singleton.mp hq, update_self]
      simp
  untouched := by
    intro τ hτ
    simp only [tokens_append, mem_append, tokens_cons, tokens_nil, mem_singleton, not_or] at hτ
    rw [update_of_ne hτ.2]
    exact h.untouched τ hτ.1
  about := by
    intro e he
    rcases mem_append.mp he with he | he
    · obtain ⟨q, hq, hln⟩ := h.about e he
      exact ⟨q, mem_append_left _ hq, hln⟩
    · obtain rfl := mem_singleton.mp he
      exact ⟨p, by simp, rfl, err, rfl⟩

lemma safe_clearOld (ps seen : List Physical) (clears : Clears) (seg : List Event) (w : World)
    (hnd : (tokens (seen ++ ps)).Nodup)
    (hold : ∀ p ∈ ps, ∃ l ∈ start.store.live, l.owner = ow ∧ p ∈ l.physical)
    (hst : start.Sound) (h : Clearing ow start es hand seen clears seg w) :
    Safe World.env Detaches (Touches ow) Sound
      (fun clears w => ∃ seg, Clearing ow start es hand (seen ++ ps) clears seg w)
      (clearOld ow ps clears) w := by
  induction ps generalizing seen clears seg w with
  | nil =>
    rw [append_nil]
    exact safe_ret (Holds.exists fun _ => Clearing.holds) ⟨seg, h⟩
  | cons p ps ih =>
    have hp : p.hintToken ∉ tokens seen := by
      intro hin
      rw [tokens_append, nodup_append] at hnd
      exact hnd.2.2 _ hin _ (by simp) rfl
    obtain ⟨l, hl, hon, hpl⟩ := hold p mem_cons_self
    have hold' := fun q hq => hold q (mem_cons_of_mem p hq)
    have hass : seen ++ p :: ps = seen ++ [p] ++ ps := by simp
    rw [hass] at hnd ⊢
    refine safe_modify Clearing.holds h fun t ht => ⟨Touches.refl ow t, ?_⟩
    change Safe _ _ _ _ _ (if t.store.cleanupOwners ow = true then _ else _) t
    split_ifs with hf
    · exact ih _ _ _ t hnd hold' (ht.skip hp hf)
    refine safe_ask Clearing.holds ht fun t' x u err ht' hx => ?_
    obtain rfl := perform_clear hx
    have hpown : p.owner = ow := (hst.records l hl p hpl).1.trans hon
    refine ⟨touches_record fun q e heq => (Event.clear.inj heq).1 ▸ hpown, ?_⟩
    exact ih _ _ _ _ hnd hold' (ht'.answer hp hl hon hpl)

/-! ### The loop of a cleanup -/

/-- Where a cleanup stands: everything it tries keeps waiting until its commit. -/
structure Cleaning (start : World) (cleared failed rest : List Physical) (w : World) : Prop where
  flight : ∃ events, Flight "" start events [] cleared w
  waiting : ∀ p ∈ cleared ++ failed ++ rest,
    p.site ∈ sites w.store.pending ∨ p.site ∈ sites w.store.orphaned
  nodup : (tokens (cleared ++ failed ++ rest)).Nodup

lemma Cleaning.holds {cleared bad rest : List Physical} :
    Holds Detaches Sound (Cleaning start cleared bad rest) where
  stable := by
    rintro s t ⟨other, visit, rfl⟩ ⟨⟨es, hfl⟩, hwait, hnd⟩
    refine ⟨⟨es, hfl.detach other visit⟩, fun p hp => ?_, hnd⟩
    rcases hfl.held.detach_cases other visit with heq | ⟨out, hw⟩
    · rw [heq]
      exact hwait p hp
    · rw [hw.pending, hw.orphaned, sites_append]
      exact (hwait p hp).imp_left fun hin => Multiset.mem_add.mpr (.inl hin)
  now := fun _ h => h.flight.elim fun _ hfl => hfl.sound

lemma safe_clearEach (ps cleared bad : List Physical) (w : World)
    (h : Cleaning start cleared bad ps w) :
    Safe World.env Detaches Sweeps Sound (fun acc w => Cleaning start acc.1 acc.2 [] w)
      (clearEach ps (cleared, bad)) w := by
  induction ps generalizing cleared bad w with
  | nil => exact safe_ret Cleaning.holds h
  | cons p ps ih =>
    refine safe_ask Cleaning.holds h fun t x u err ht hx => ?_
    obtain rfl := perform_clear hx
    refine ⟨sweeps_record, ?_⟩
    obtain ⟨⟨es, hfl⟩, hwait, hnd⟩ := ht
    cases err with
    | none =>
      change Safe _ _ _ _ _ (clearEach ps (cleared ++ [p], bad)) _
      have hperm : (cleared ++ [p] ++ bad ++ ps).Perm (cleared ++ bad ++ p :: ps) := by
        simp only [append_assoc, singleton_append]
        exact perm_middle.symm.append_left cleared
      refine ih _ _ _ ⟨⟨es ++ [.clear p none], hfl.record ?_⟩, ?_, ?_⟩
      · rw [present_concat]
        refine Balanced.clearTracked hfl.held ?_ fun hin => ?_
        · simp only [Store.tracked, sites_append, Multiset.mem_add]
          exact (hwait p (by simp)).elim (fun hin => .inl (.inr hin)) .inr
        · rw [append_assoc, tokens_append, nodup_append] at hnd
          exact hnd.2.2 _ (token_mem_of_site_mem hin) _ (by simp) rfl
      · exact fun q hq => hwait q (hperm.subset hq)
      · exact (hperm.map _).nodup_iff.mpr hnd
    | some e =>
      change Safe _ _ _ _ _ (clearEach ps (cleared, bad ++ [p])) _
      have hass : cleared ++ (bad ++ [p]) ++ ps = cleared ++ bad ++ p :: ps := by simp
      refine ih _ _ _ ⟨⟨es ++ [.clear p (some e)], hfl.record ?_⟩, ?_, ?_⟩
      · rw [present_concat]
        exact hfl.held
      · rw [hass]
        exact hwait
      · rw [hass]
        exact hnd

end

end MultiDap.Breakpoint
