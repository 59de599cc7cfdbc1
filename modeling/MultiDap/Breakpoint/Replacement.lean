import MultiDap.Breakpoint.Ownership

/-!
# Replacement and cleanup as a whole

`Replaced` says what a replacement is for, in terms of the breakpoints that were live before, the
answers of the placer and the result. It is proved for every behaviour of the placer and every
detach beside the transaction.
-/

namespace MultiDap.Breakpoint

open Source Machine Prog World List Function

variable {ow : Owner} {src : Identity} {requested cores : List Int} {start w : World}
variable {plan : Plan} {placed : Int → PlacementOutcome} {segs : Int → List Event}
variable {es seg : List Event} {clears : Clears} {hand : List Physical}

/-! ### Sorted arguments -/

/-- The values of `ys`, each once and in ascending order. -/
def Lists (xs ys : List Int) : Prop := xs.Pairwise (· < ·) ∧ ∀ n, n ∈ xs ↔ n ∈ ys

lemma Lists.nodup {xs ys : List Int} (h : Lists xs ys) : xs.Nodup :=
  h.1.imp fun hlt => ne_of_lt hlt

lemma lists_uniqueValues {valid : Int → Bool} {vs out : List Int} {complaint : String}
    (h : uniqueValues valid vs complaint = .ok out) : Lists out vs := by
  simp only [uniqueValues] at h
  split_ifs at h
  cases h
  have hsor := pairwise_insertionSort (· ≤ ·) vs.dedup
  have hnod : (vs.dedup.insertionSort (· ≤ ·)).Nodup :=
    (perm_insertionSort (· ≤ ·) vs.dedup).nodup_iff.mpr vs.nodup_dedup
  refine ⟨(hsor.and hnod).imp fun ⟨hle, hne⟩ => lt_of_le_of_ne hle hne, fun n => ?_⟩
  rw [mem_insertionSort, mem_dedup]

lemma checkReplace_ok {lines : List Int} {expected : List Int}
    (h : checkReplace src lines cores = .ok (requested, expected)) :
    Lists requested lines ∧ Lists expected cores := by
  simp only [checkReplace] at h
  split_ifs at h
  · cases h
  cases hre : uniquePositive lines "line" with
  | error => simp [hre, Bind.bind, Except.bind] at h
  | ok =>
    cases hexp : uniqueNonNegative cores "core" with
    | error => simp [hre, hexp, Bind.bind, Except.bind] at h
    | ok =>
      simp only [hre, hexp, Bind.bind, Except.bind, Pure.pure, Except.pure] at h
      split_ifs at h
      obtain ⟨rfl, rfl⟩ := Prod.mk.inj (Except.ok.inj h)
      exact ⟨lists_uniqueValues hre, lists_uniqueValues hexp⟩

/-! ### The plan -/

section Plan

lemma mem_lines {s : Store} {line : Int} :
    line ∈ s.lines src.key ↔ ∃ l ∈ s.live, l.key = (src.key, line) := by
  simp only [Store.lines, mem_map, mem_filter, beq_iff_eq, Logical.key, Prod.mk.injEq, and_assoc]

lemma nodup_lines (hs : w.Sound) (key : String) : (w.store.lines key).Nodup := by
  refine List.Nodup.map_on ?_ ((List.Nodup.of_map _ hs.keys).filter _)
  intro l hl k hk heq
  simp only [mem_filter, beq_iff_eq] at hl hk
  exact inj_on_of_nodup_map hs.keys hl.1 hk.1 (Prod.ext (hl.2.trans hk.2.symm) heq)

lemma disjoint_tokens (hh : w.Held [] []) {l k : Logical} (hl : l ∈ w.store.live)
    (hk : k ∈ w.store.live) (hne : l ≠ k) : (tokens l.physical).Disjoint (tokens k.physical) := by
  have hnd := hh.nodup_tracked
  simp only [Store.tracked, tokens_append, nodup_append] at hnd
  have hlive := hnd.1.1
  rw [tokens, map_flatMap, nodup_flatMap] at hlive
  have hsymm : Std.Symm
      (onFun List.Disjoint fun l : Logical => l.physical.map (·.hintToken)) :=
    ⟨fun _ _ hd => disjoint_symm hd⟩
  exact List.Pairwise.forall hlive.2 hl hk hne

lemma nodup_tokens (hh : w.Held [] []) {l : Logical} (hl : l ∈ w.store.live) :
    (tokens l.physical).Nodup := by
  have hnd := hh.nodup_tracked
  simp only [Store.tracked, tokens_append, nodup_append] at hnd
  have hlive := hnd.1.1
  rw [tokens, map_flatMap, nodup_flatMap] at hlive
  exact hlive.1 l hl

lemma planned_of_plan (hs : w.Sound) (hnd : requested.Nodup)
    (h : w.store.plan ow src requested = .ok plan) :
    Planned ow src requested w plan ∧ w.store.cleanupOwners ow = false := by
  simp only [Store.plan] at h
  split_ifs at h with hf hother
  cases h
  -- no requested line belongs to another frontend
  have hmine : ∀ line ∈ requested, ∀ l, w.store.lookup src.key line = some l → l.owner = ow := by
    intro line hline l hl
    by_contra hne
    exact hother (any_eq_true.mpr ⟨line, hline, by simp [hl, hne]⟩)
  have hold : ∀ line ∈ ((w.store.lines src.key).filter (!requested.contains ·)).insertionSort
      (· ≤ ·), line ∈ w.store.lines src.key ∧ line ∉ requested := by
    intro line hline
    simpa using hline
  have hrec : ∀ line ∈ ((w.store.lines src.key).filter (!requested.contains ·)).insertionSort
      (· ≤ ·), ∃ l ∈ w.store.live, l.key = (src.key, line) ∧
        w.store.lookup src.key line = some l := by
    intro line hline
    obtain ⟨l, hl, hke⟩ := mem_lines.mp (hold line hline).1
    have hlook := Store.lookup_of_mem hs.keys hl
    simp only [Logical.key, Prod.mk.injEq] at hke
    rw [hke.1, hke.2] at hlook
    exact ⟨l, hl, Prod.ext hke.1 hke.2, hlook⟩
  have hnod := (perm_insertionSort (· ≤ ·) _).nodup_iff.mpr
    ((nodup_lines hs src.key).filter (!requested.contains ·))
  refine ⟨?_, by simpa using hf⟩
  constructor
  case nodup => exact hnd
  case kept =>
    intro line hline l hl
    have hlook : w.store.lookup src.key line = some l := by simpa [hline] using hl
    obtain ⟨hme, hke⟩ := Store.lookup_eq_some hlook
    exact ⟨hme, hmine line hline l hlook, hke⟩
  case add =>
    refine filter_congr fun line hline => ?_
    simp [Plan.isNew, hline]
  case free =>
    intro l hl line hline hke
    have hnn : w.store.lookup src.key line = none := by
      simpa using (mem_filter.mp hline).2
    exact Store.lookup_eq_none.mp hnn l hl hke
  case oldNodup => exact hnod
  case oldFresh => exact fun line hline => (hold line hline).2
  case old =>
    intro line hline
    obtain ⟨l, hl, hke, hlook⟩ := hrec line hline
    simp only [hlook]
    split_ifs with hon
    · exact .inr ⟨hl, hon, hke⟩
    · exact .inl rfl
  case complete =>
    intro l hl hon hke
    have hlook : w.store.lookup src.key l.line = some l := hke ▸ Store.lookup_of_mem hs.keys hl
    by_cases hre : l.line ∈ requested
    · exact .inl ⟨hre, by simpa [hre] using hlook⟩
    refine .inr ⟨?_, by simp [hlook, hon]⟩
    have hline : l.line ∈ w.store.lines src.key := mem_lines.mpr ⟨l, hl, Prod.ext hke rfl⟩
    simpa [hre] using hline

lemma Planned.oldTokens (h : Planned ow src requested w plan) (hh : w.Held [] []) :
    (tokens plan.oldRecords).Nodup := by
  rw [tokens, Plan.oldRecords, map_flatMap, nodup_flatMap]
  constructor
  · intro line hline
    rcases h.old line hline with hemp | ⟨hl, -, -⟩
    · simp [hemp]
    · exact nodup_tokens hh hl
  refine h.oldNodup.imp_of_mem fun {line other} hline hother hne => ?_
  rcases h.old line hline with hemp | ⟨hl, -, hke⟩
  · simp [onFun, hemp]
  rcases h.old other hother with hemp | ⟨hk, -, hke'⟩
  · simp [onFun, hemp]
  refine disjoint_tokens hh hl hk fun heq => hne ?_
  rw [heq, hke'] at hke
  exact (congrArg Prod.snd hke).symm

end Plan

/-! ### The commit keeps the invariant -/

/-- A live record after the commit was live before, or is a verified new entry of an owner that
is still attached. -/
lemma Committed.mem_live {m : Multiset Site} {b s : Store} {res : ReplaceResult} {l : Logical}
    (h : Committed m ow src requested plan placed b s res) (hl : l ∈ s.live) :
    l ∈ b.live ∨ b.cleanupOwners ow = false ∧ l ∈ res.breakpoints ∧
      plan.isNew l.line = true ∧ l.verified = true := by
  rw [h.live] at hl
  split_ifs at hl with hf
  · exact .inl hl
  · rw [mem_without, mem_append, mem_filter, Bool.and_eq_true] at hl
    exact hl.1.imp_right fun hnew => ⟨by simpa using hf, hnew⟩

lemma Committed.new_id {m : Multiset Site} {b s : Store} {res : ReplaceResult} {l : Logical}
    (h : Committed m ow src requested plan placed b s res) (hl : l ∈ res.breakpoints)
    (hnew : plan.isNew l.line = true) : b.nextDAPID < l.dapID ∧ l.dapID ≤ s.nextDAPID := by
  rcases h.entries l hl with hkp | ⟨-, hlo, hhi, -⟩
  · simp [Plan.isNew, hkp] at hnew
  · exact ⟨hlo, hhi⟩

lemma Committed.nodup_liveIds {m : Multiset Site} {s : Store} {res : ReplaceResult}
    (h : Committed m ow src requested plan placed w.store s res) (hs : w.Sound) :
    (s.live.map Logical.dapID).Nodup := by
  have hwho : ((w.store.live ++
      res.breakpoints.filter fun l =>
        plan.isNew l.line && l.verified).map Logical.dapID).Nodup := by
    rw [map_append, nodup_append]
    refine ⟨hs.liveIds, ?_, ?_⟩
    · refine List.Nodup.sublist ?_ (h.fresh.imp fun hlt => ne_of_lt hlt)
      refine List.Sublist.map _ (monotone_filter_right _ fun l hl => ?_)
      exact (Bool.and_eq_true _ _ ▸ hl).1
    intro x hx y hy hxy
    obtain ⟨l, hl, rfl⟩ := mem_map.mp hx
    obtain ⟨k, hk, rfl⟩ := mem_map.mp hy
    rw [mem_filter, Bool.and_eq_true] at hk
    have hold := (hs.range _ (hs.issuedTo l hl)).2
    have hnew := (h.new_id hk.1 hk.2.1).1
    dsimp only at hold
    omega
  rw [h.live]
  split_ifs
  · exact hs.liveIds
  · exact hwho.sublist (filter_sublist.map _)

lemma sound_commit (hpl : Planned ow src requested start plan)
    (hal : ∀ line ∈ plan.add, Placed ow src line cores (segs line) (placed line)) (hs : w.Sound)
    (h : Committed (present w.log) ow src requested plan placed w.store
      (w.store.commit ow src requested plan placed clears).1
      (w.store.commit ow src requested plan placed clears).2) :
    (w.commit ow src requested plan placed clears).1.Sound := by
  simp only [World.commit]
  generalize w.store.commit ow src requested plan placed clears = out at h ⊢
  obtain ⟨s, res⟩ := out
  dsimp only at h ⊢
  -- a new live record is what was placed on its line
  have hnew : ∀ l ∈ res.breakpoints, plan.isNew l.line = true →
      l.line ∈ plan.add ∧ l.owner = ow ∧ l.source = src ∧
        l = { (placed l.line).logical with dapID := l.dapID } :=
    fun l hl hl' => new_entry hpl hal h.lines h.entries hl hl'
  constructor
  case keys => exact h.keys
  case verified =>
    intro l hl
    rcases h.mem_live hl with hl | ⟨-, -, -, hv⟩
    · exact hs.verified l hl
    · exact hv
  case unfenced =>
    intro l hl
    dsimp only
    rw [h.cleanupOwners]
    rcases h.mem_live hl with hl | ⟨hf, hl, hisn, -⟩
    · exact hs.unfenced l hl
    · rw [(hnew l hl hisn).2.1]
      exact hf
  case records =>
    intro l hl p hp
    rcases h.mem_live hl with hl | ⟨-, hl, hisn, -⟩
    · exact hs.records l hl p hp
    obtain ⟨hadd, hon, -, heq⟩ := hnew l hl hisn
    rw [heq] at hp
    rw [hon]
    exact (hal _ hadd).segment.own p (mem_append_left _ hp)
  case issuedTo =>
    intro l hl
    rcases h.mem_live hl with hl | ⟨-, hl, hisn, -⟩
    · exact mem_append_left _ (hs.issuedTo l hl)
    · refine mem_append_right _ (mem_map.mpr ⟨l, mem_filter.mpr ⟨hl, hisn⟩, ?_⟩)
      rw [(hnew l hl hisn).2.1]
  case liveIds => exact h.nodup_liveIds hs
  case hints => exact h.names
  case nonneg => exact hs.nonneg.trans h.nextDAPID
  case range =>
    intro i hi
    have hnon := hs.nonneg
    have hnx := h.nextDAPID
    dsimp only at hi ⊢
    rcases mem_append.mp hi with hi | hi
    · have hold := hs.range i hi
      exact ⟨hold.1, hold.2.trans hnx⟩
    obtain ⟨l, hl, rfl⟩ := mem_map.mp hi
    rw [mem_filter] at hl
    have hnewId := h.new_id hl.1 hl.2
    exact ⟨by dsimp only; omega, hnewId.2⟩
  case ids =>
    rw [map_append, map_map, nodup_append]
    refine ⟨hs.ids, h.fresh.imp fun hlt => ne_of_lt hlt, ?_⟩
    intro x hx y hy hxy
    obtain ⟨i, hi, rfl⟩ := mem_map.mp hx
    obtain ⟨l, hl, rfl⟩ := mem_map.mp hy
    rw [mem_filter] at hl
    have hold := (hs.range i hi).2
    have hnewId := (h.new_id hl.1 hl.2).1
    simp only [comp_apply] at hxy
    omega

/-! ### What a replacement is for -/

/-- An entry of the result that was live before. Nothing is done on its line. -/
structure Keeps (owner : Owner) (src : Identity) (start : World) (events : List Event)
    (l : Logical) : Prop where
  live : l ∈ start.store.live
  mine : l.owner = owner ∧ l.source.key = src.key
  verified : l.verified = true
  silent : ∀ e ∈ events, e.line ≠ l.line

/-- An entry of the result on a line that was not live before. -/
structure Adds (owner : Owner) (src : Identity) (cores : List Int) (start : World)
    (events : List Event) (w : World) (l : Logical) : Prop where
  new : ∀ k ∈ start.store.live, k.owner = owner → k.key ≠ (src.key, l.line)
  id : ∀ i ∈ start.issued, i.1 ≠ l.dapID
  /-- One record for each expected core, all resolved to one line. -/
  verified : l.verified = true →
    Lists (l.physical.map (·.core)) cores ∧
      ∀ p ∈ l.physical, ∀ q ∈ l.physical, p.actualLine = q.actualLine
  /-- No live record, and no placement that is neither cleared nor an orphan. -/
  unverified : l.verified = false →
    (∀ k ∈ w.store.live, k.key ≠ (src.key, l.line)) ∧
      ∀ request physical err, Event.set request physical err ∈ events → request.line = l.line →
        mayExist physical err = true →
          (∃ q, Event.clear q none ∈ events ∧ q.site = request.site) ∨
            request.site ∈ sites w.store.orphaned

/-- What a replacement has achieved when it began in `start` and ended in `w`. -/
structure Replaced (owner : Owner) (src : Identity) (lines cores : List Int) (start : World)
    (events : List Event) (w : World) (res : ReplaceResult) : Prop where
  log : w.log = start.log ++ events
  lines : Lists (res.breakpoints.map (·.line)) lines
  /-- The owner's live breakpoints in the source are the verified entries. -/
  live : ∀ l, l ∈ w.store.live ∧ l.owner = owner ∧ l.source.key = src.key ↔
    l ∈ res.breakpoints ∧ l.verified = true
  entries : ∀ l ∈ res.breakpoints,
    Keeps owner src start events l ∨ Adds owner src cores start events w l
  ids : (res.breakpoints.map (·.dapID)).Nodup

section Ready

variable {s : Store} {res : ReplaceResult} {l : Logical} {lines expected : List Int}

/-- A replacement that is about to commit. -/
structure Ready (owner : Owner) (src : Identity) (requested expected : List Int) (start : World)
    (plan : Plan) (placed : Int → PlacementOutcome) (segs : Int → List Event) (clears : Clears)
    (seg : List Event) (w : World) : Prop where
  planned : Planned owner src requested start plan
  outcomes : ∀ line ∈ plan.add, Placed owner src line expected (segs line) (placed line)
  clearing : Clearing owner start (plan.add.flatMap segs)
    (plan.add.flatMap fun line => (placed line).records) plan.oldRecords clears seg w

lemma Committed.kept_or_new {m : Multiset Site} {b : Store}
    (hc : Committed m ow src requested plan placed b s res) (hl : l ∈ res.breakpoints) :
    l.line ∈ requested ∧ (plan.kept l.line = some l ∨ plan.isNew l.line = true) := by
  refine ⟨hc.lines ▸ mem_map_of_mem hl, (hc.entries l hl).imp_right fun hnew => ?_⟩
  simp [Plan.isNew, hnew.1]

section

variable (h : Ready ow src requested expected start plan placed segs clears seg w)

include h

lemma Ready.new_entry (hc : Committed (present w.log) ow src requested plan placed w.store s res)
    (hl : l ∈ res.breakpoints) (hnew : plan.isNew l.line = true) :
    l.line ∈ plan.add ∧ l.owner = ow ∧ l.source = src ∧
      l = { (placed l.line).logical with dapID := l.dapID } :=
  Breakpoint.new_entry h.planned h.outcomes hc.lines hc.entries hl hnew

lemma Ready.live_iff (hc : Committed (present w.log) ow src requested plan placed w.store s res)
    (hf : w.store.cleanupOwners ow = false) : l ∈ s.live ∧ l.owner = ow ∧ l.source.key = src.key ↔
      l ∈ res.breakpoints ∧ l.verified = true := by
  have hfl := h.clearing.flight
  have hlive := hc.live
  rw [hf, if_neg Bool.false_ne_true] at hlive
  rw [hlive, mem_without, mem_append, mem_filter, Bool.and_eq_true]
  constructor
  · rintro ⟨⟨hl | hl, hou⟩, hon, hke⟩
    · refine ⟨?_, hfl.sound.verified l hl⟩
      rcases h.planned.complete l (hfl.live l hl) hon hke with ⟨hre, hkp⟩ | ⟨hold, -⟩
      · -- the entry of the line can only be the kept record
        obtain ⟨k, hk, hline⟩ := mem_map.mp (hc.lines ▸ hre)
        rcases (hc.kept_or_new hk).2 with hkk | hknew
        · rw [hline, hkp] at hkk
          rwa [Option.some.inj hkk]
        · simp [Plan.isNew, hline, hkp] at hknew
      · exact absurd ⟨hon, hke, hold⟩ hou
    · exact ⟨hl.1, hl.2.2⟩
  · rintro ⟨hl, hver⟩
    obtain ⟨hre, hcase⟩ := hc.kept_or_new hl
    have hou : ¬ (l.owner = ow ∧ l.source.key = src.key ∧ l.line ∈ plan.oldLines) :=
      fun hou => h.planned.oldFresh _ hou.2.2 hre
    rcases hcase with hkp | hnew
    · obtain ⟨hme, hon, hke⟩ := h.planned.kept _ hre l hkp
      exact ⟨⟨.inl (hfl.steady hf l hme hon), hou⟩, hon, congrArg Prod.fst hke⟩
    · obtain ⟨-, hon, hsrc, -⟩ := h.new_entry hc hl hnew
      exact ⟨⟨.inr ⟨hl, hnew, hver⟩, hou⟩, hon, congrArg Identity.key hsrc⟩

lemma Ready.event_line (hs : start.Sound) {e : Event} (he : e ∈ plan.add.flatMap segs ++ seg) :
    (e.line ∈ plan.add ∧ e ∈ segs e.line) ∨
      e.line ∈ plan.oldLines ∧ ∃ p err, e = Event.clear p err := by
  rcases mem_append.mp he with he | he
  · obtain ⟨line, hline, he⟩ := mem_flatMap.mp he
    have habo := (h.outcomes line hline).segment.about e he
    rw [habo]
    exact .inl ⟨hline, he⟩
  obtain ⟨p, hp, hline, err, heq⟩ := h.clearing.about e he
  obtain ⟨line, hold, hp⟩ := mem_flatMap.mp hp
  right
  rcases h.planned.old line hold with hemp | ⟨hl, -, hke⟩
  · simp [hemp] at hp
  have hre : p.requestedLine = line :=
    (hs.records _ hl p hp).2.trans (congrArg Prod.snd hke)
  rw [hline, hre]
  exact ⟨hold, p, err, heq⟩

lemma Ready.keeps
    (hs : start.Sound) (hline : l.line ∈ requested) (hkp : plan.kept l.line = some l) :
    Keeps ow src start (plan.add.flatMap segs ++ seg) l where
  live := (h.planned.kept _ hline l hkp).1
  mine := by
    obtain ⟨-, hon, hke⟩ := h.planned.kept _ hline l hkp
    exact ⟨hon, congrArg Prod.fst hke⟩
  verified := hs.verified l (h.planned.kept _ hline l hkp).1
  silent := by
    intro e he heq
    rcases h.event_line hs he with ⟨hadd, -⟩ | ⟨hold, -⟩
    · rw [heq, h.planned.add, mem_filter, Plan.isNew, hkp] at hadd
      simp at hadd
    · exact h.planned.oldFresh _ (heq ▸ hold) hline

section

variable (hc : Committed (present w.log) ow src requested plan placed w.store s res)

include hc

lemma Ready.adds
    (hs : start.Sound) (hcor : Lists expected cores) (hf : w.store.cleanupOwners ow = false)
    (hl : l ∈ res.breakpoints) (hnew : plan.isNew l.line = true) {w' : World} (hw' : w'.store = s) :
    Adds ow src cores start (plan.add.flatMap segs ++ seg) w' l := by
  obtain ⟨hadd, hon, hsrc, heq⟩ := h.new_entry hc hl hnew
  have hplac := h.outcomes _ hadd
  have hfl := h.clearing.flight
  constructor
  case new => exact fun k hk _ => h.planned.free k hk _ hadd
  case id =>
    intro i hi
    have hold := (hs.range i hi).2
    have hid := (hc.new_id hl hnew).1
    rw [hfl.nextDAPID] at hid
    omega
  case verified =>
    intro hver
    rw [heq] at hver ⊢
    obtain ⟨-, hcore, hsm⟩ := hplac.verified hver
    rw [hcore]
    exact ⟨hcor, hsm⟩
  case unverified =>
    intro hver
    have hver' : (placed l.line).logical.verified = false := by
      rw [heq] at hver
      exact hver
    refine ⟨fun k hk hke => ?_, fun req physical err he hline hmay => ?_⟩
    · rw [hw'] at hk
      rcases hc.mem_live hk with hk | ⟨-, hk, -, hkver⟩
      · exact h.planned.free k (hfl.live k hk) _ hadd hke
      · have hnd : (res.breakpoints.map (·.line)).Nodup := hc.lines ▸ h.planned.nodup
        rw [inj_on_of_nodup_map hnd hk hl (congrArg Prod.snd hke), hver] at hkver
        cases hkver
    rcases h.event_line hs he with ⟨-, hseg⟩ | ⟨-, p, e, hclear⟩
    · rw [show (Event.set req physical err).line = l.line from hline] at hseg
      rcases hplac.segment.accounts req physical err hseg hmay with ⟨q, hq, hsite⟩ | hme
      · refine .inl ⟨q, mem_append_left _ ?_, hsite⟩
        exact mem_flatMap.mpr ⟨_, hadd, hq⟩
      right
      rw [PlacementOutcome.records, hplac.unverified hver', nil_append] at hme
      obtain ⟨p, hp, hsite⟩ := of_mem_sites hme
      rw [hw', ← hsite]
      refine hc.rolledBack hf _ (hc.kept_or_new hl).1 ?_ p hp
      simpa [Plan.isNew] using hnew
    · cases hclear

lemma Ready.nodup_ids (hs : start.Sound) : (res.breakpoints.map (·.dapID)).Nodup := by
  have hnd : res.breakpoints.Nodup := List.Nodup.of_map _ (hc.lines ▸ h.planned.nodup)
  have hfr : ((res.breakpoints.filter fun l => plan.isNew l.line).map (·.dapID)).Nodup :=
    hc.fresh.imp fun hlt => ne_of_lt hlt
  -- kept ids were issued before, new ones were not
  have hkep : ∀ l ∈ res.breakpoints, plan.kept l.line = some l →
      l ∈ start.store.live ∧ l.dapID ≤ w.store.nextDAPID := by
    intro l hl hkp
    have hme := (h.planned.kept _ (hc.kept_or_new hl).1 l hkp).1
    rw [h.clearing.flight.nextDAPID]
    exact ⟨hme, (hs.range _ (hs.issuedTo l hme)).2⟩
  refine hnd.map_on fun l hl k hk heq => ?_
  rcases (hc.kept_or_new hl).2 with hlk | hln <;> rcases (hc.kept_or_new hk).2 with hkk | hkn
  · exact inj_on_of_nodup_map hs.liveIds (hkep l hl hlk).1 (hkep k hk hkk).1 heq
  · have h₁ := (hkep l hl hlk).2
    have h₂ := (hc.new_id hk hkn).1
    omega
  · have h₁ := (hkep k hk hkk).2
    have h₂ := (hc.new_id hl hln).1
    omega
  · exact inj_on_of_nodup_map hfr (mem_filter.mpr ⟨hl, hln⟩) (mem_filter.mpr ⟨hk, hkn⟩) heq

lemma Ready.replaced (hs : start.Sound) (hlin : Lists requested lines) (hcor : Lists expected cores)
    (hf : w.store.cleanupOwners ow = false) {w' : World} (hw' : w'.store = s)
    (hlog : w'.log = w.log) :
    Replaced ow src lines cores start (plan.add.flatMap segs ++ seg) w' res where
  log := hlog.trans h.clearing.flight.log
  lines := by rw [hc.lines]; exact hlin
  live := by
    intro l
    rw [hw']
    exact h.live_iff hc hf
  entries := by
    intro l hl
    obtain ⟨hline, hcase⟩ := hc.kept_or_new hl
    exact hcase.imp (fun hkp => h.keeps hs hline hkp) fun hnew => h.adds hc hs hcor hf hl hnew hw'
  ids := h.nodup_ids hc hs

end

end

end Ready

/-! ### Replacement, whatever happens beside it -/

section Safe

variable {lines expected : List Int}

lemma Replaced.detach {res : ReplaceResult} {other : Owner} {vis : Visit Logical}
    (h : Replaced ow src lines cores start es w res) (hh : w.Held [] [])
    (hf : (w.detach other vis).store.cleanupOwners ow = false) :
    Replaced ow src lines cores start es (w.detach other vis) res := by
  rcases hh.detach_cases other vis with heq | ⟨out, hw⟩
  · rwa [heq]
  have hother : ow ≠ other := by
    rintro rfl
    simp [hw.cleanupOwners] at hf
  have hlive : ∀ l, l ∈ (w.detach other vis).store.live ↔ l ∈ w.store.live ∧ l.owner ≠ other := by
    intro l
    rw [hw.live, mem_filter]
    simp
  refine { h with live := ?_, entries := ?_ }
  · intro l
    rw [← h.live l, hlive l]
    constructor
    · rintro ⟨⟨hl, -⟩, hon, hke⟩
      exact ⟨hl, hon, hke⟩
    · rintro ⟨hl, hon, hke⟩
      exact ⟨⟨hl, hon ▸ hother⟩, hon, hke⟩
  intro l hl
  refine (h.entries l hl).imp_right fun hadd => { hadd with unverified := ?_ }
  intro hver
  obtain ⟨hnn, hac⟩ := hadd.unverified hver
  rw [hw.orphaned]
  exact ⟨fun k hk => hnn k ((hlive k).mp hk).1, hac⟩

lemma Replaced.rebase {res : ReplaceResult} {t : World}
    (h : Replaced ow src lines cores t es w res) (ht : Flight ow start [] [] [] t)
    (hf : t.store.cleanupOwners ow = false) : Replaced ow src lines cores start es w res := by
  refine { h with log := ?_, entries := ?_ }
  · rw [h.log, ht.log, append_nil]
  intro l hl
  refine (h.entries l hl).imp (fun hk => { hk with live := ht.live l hk.live }) fun ha => ?_
  refine { ha with new := fun k hk hon => ?_, id := ?_ }
  · exact ha.new k (ht.steady hf k hk hon) hon
  · rw [← ht.issued]
    exact ha.id

/-- What is left when a replacement has returned. -/
structure Finished (owner : Owner) (src : Identity) (lines cores : List Int) (start : World)
    (res : Except Error ReplaceResult) (w : World) : Prop where
  sound : w.Sound
  held : w.Held [] []
  shaped : ∀ r, res = .ok r →
    Lists (r.breakpoints.map (·.line)) lines ∧ (r.breakpoints.map (·.dapID)).Nodup
  replaced : ∀ r, res = .ok r → w.store.cleanupOwners owner = false →
    ∃ events, Replaced owner src lines cores start events w r

lemma Finished.holds {res : Except Error ReplaceResult} :
    Holds Detaches Sound (Finished ow src lines cores start res) where
  stable := by
    rintro s t ⟨other, visit, rfl⟩ h
    refine ⟨h.sound.detach h.held other visit, h.held.detach other visit, h.shaped,
      fun r hr hf => ?_⟩
    obtain ⟨es, hrp⟩ := h.replaced r hr (fence_of_detach h.held hf)
    exact ⟨es, hrp.detach h.held hf⟩
  now := fun _ h => h.sound

lemma finished_error {err : Error} (hs : w.Sound) (hh : w.Held [] []) :
    Finished ow src lines cores start (.error err) w :=
  ⟨hs, hh, nofun, nofun⟩

/-- The commit of a replacement that was planned in `t`. -/
lemma Ready.finished {t : World}
    (h : Ready ow src requested expected t plan placed segs clears seg w)
    (ht : Flight ow start [] [] [] t) (hlin : Lists requested lines)
    (hcor : Lists expected cores) (hf : t.store.cleanupOwners ow = false) :
    Finished ow src lines cores start (.ok (w.commit ow src requested plan placed clears).2)
      (w.commit ow src requested plan placed clears).1 := by
  have hc := commit_spec h.planned h.outcomes h.clearing (h.planned.oldTokens ht.held)
  refine ⟨sound_commit h.planned h.outcomes h.clearing.flight.sound hc, hc.balanced, ?_, ?_⟩
  · rintro r ⟨⟩
    exact ⟨hc.lines.symm ▸ hlin, h.nodup_ids hc ht.sound⟩
  intro r hr hf'
  cases hr
  have hfw : w.store.cleanupOwners ow = false := by
    rw [← hc.cleanupOwners]
    exact hf'
  have hrp : Replaced ow src lines cores t (plan.add.flatMap segs ++ seg)
      (w.commit ow src requested plan placed clears).1
      (w.commit ow src requested plan placed clears).2 :=
    h.replaced hc ht.sound hlin hcor hfw rfl rfl
  exact ⟨_, hrp.rebase ht hf⟩

theorem safe_replaceLocked (hlin : Lists requested lines) (hcor : Lists expected cores)
    (h : Flight ow start [] [] [] w) :
    Safe World.env Detaches (Touches ow) Sound (Finished ow src lines cores start)
      (replaceLocked ow src requested expected) w := by
  refine safe_modify Flight.holds h fun t ht => ⟨Touches.refl ow t, ?_⟩
  dsimp only [locked]
  cases hplan : t.store.plan ow src requested with
  | error => exact safe_ret Finished.holds (finished_error ht.sound ht.held)
  | ok plan =>
    obtain ⟨hpl, hf⟩ := planned_of_plan ht.sound hlin.nodup hplan
    have hadd : ([] ++ plan.add).Nodup := by
      rw [nil_append, hpl.add]
      exact hpl.nodup.filter _
    have hbeg : PlacedAll ow src expected t [] (fun _ => {}) (fun _ => []) t :=
      ⟨by simp, Flight.begin ht.sound ht.held⟩
    refine safe_bind ((safe_placeAll expected plan.add [] _ _ t hadd hbeg).mono ?_)
    rintro placed w₁ ⟨segs, hal, hfl⟩
    rw [nil_append] at hal hfl
    have hclear : Clearing ow t (plan.add.flatMap segs)
        (plan.add.flatMap fun line => (placed line).records) [] (fun _ => none) [] w₁ :=
      ⟨by simpa [clearedBy] using hfl, by simp, by simp, by simp⟩
    refine safe_bind ((safe_clearOld plan.oldRecords [] _ [] w₁ (hpl.oldTokens ht.held)
      (fun _ hp => hpl.old_live hp) ht.sound hclear).mono ?_)
    rintro clears w₂ ⟨seg, hcle⟩
    rw [nil_append] at hcle
    refine safe_modify Clearing.holds hcle fun w₃ h₃ =>
      ⟨touches_commit hpl hal ht.sound h₃, safe_ret Finished.holds ?_⟩
    exact Ready.finished ⟨hpl, hal, h₃⟩ ht hlin hcor hf

theorem safe_replaceForOwner (h : Flight ow w [] [] [] w) :
    Safe World.env Detaches (Touches ow) Sound (Finished ow src lines cores w)
      (replaceForOwner ow src lines cores) w := by
  rw [replaceForOwner]
  cases hche : checkReplace src lines cores with
  | error => exact safe_ret Finished.holds (finished_error h.sound h.held)
  | ok =>
    obtain ⟨hlin, hcor⟩ := checkReplace_ok hche
    exact safe_replaceLocked hlin hcor h

/-! ### Cleanup -/

variable {m : Multiset Site} {s t : Store} {p : Physical} {cleared failed rest : List Physical}

lemma foldl_removePhysicalEvidence (h : Balanced m [] cleared s)
    (hnd : (tokens (cleared ++ rest)).Nodup) (hnam : s.Names [])
    (hwait : ∀ p ∈ cleared ++ rest, p.site ∈ s.waiting) :
    Balanced m [] [] (cleared.foldl Store.removePhysicalEvidence s) ∧
      (cleared.foldl Store.removePhysicalEvidence s).Names [] ∧
      ∀ p ∈ rest, p.site ∈ (cleared.foldl Store.removePhysicalEvidence s).waiting := by
  induction cleared generalizing s with
  | nil => exact ⟨h, hnam, hwait⟩
  | cons p ps ih =>
    have hp := hwait p (by simp)
    have h' : Balanced m [] ps (s.removePhysicalEvidence p) := h.removeWaiting hp rfl
    rw [cons_append, tokens_cons, nodup_cons] at hnd
    refine ih h' hnd.2 (hnam.removeWaiting h hp) ?_
    intro q hq
    have hin := hwait q (mem_cons_of_mem _ hq)
    rw [h.waiting_remove hp, Multiset.mem_cons] at hin
    refine hin.resolve_left fun hsite => hnd.1 ?_
    have hto : q.hintToken = p.hintToken := congrArg Site.token hsite
    exact hto ▸ mem_tokens hq

lemma waiting_movePendingToOrphaned (h : Balanced m [] [] s) (hp : p.site ∈ s.waiting) :
    (s.movePendingToOrphaned p).waiting = s.waiting := by
  have hsum := h.waiting_eq (h.movePendingToOrphaned hp) (Store.sameLive_moved s p)
  rw [sites_nil, add_zero, add_zero] at hsum
  exact hsum.symm

lemma Store.Names.movePendingToOrphaned (hnam : s.Names []) (h : Balanced m [] [] s)
    (hp : p.site ∈ s.waiting) : (s.movePendingToOrphaned p).Names [] := by
  have h₀ : p.hintToken ≠ 0 := h.tracked_ne_zero (Store.tracked_of_waiting hp)
  have hhint : s.liveHints p.hintToken = some { core := p.core } :=
    (hnam p.hintToken (by simp) _).mpr (.inr ⟨p.site, hp, rfl, rfl⟩)
  have hhin : (s.movePendingToOrphaned p).liveHints = s.liveHints := by
    simp only [Store.movePendingToOrphaned]
    split_ifs with ho hpen
    · rfl
    · have hfr : p.hintToken ∉
          tokens (Store.orphaned { s with pending := removePhysical s.pending p }) :=
        fun hin => ho ((hasPhysical_eq_true h₀).mpr hin)
      rw [(Store.appendOrphaned_fresh h₀ hfr).2.2]
      exact update_eq_self_iff.mpr hhint.symm
    · rfl
  intro τ hτ tgt
  rw [hhin, hnam τ hτ]
  refine (Store.refers_congr (Store.sameLive_moved s p).live fun x _ => ?_).symm
  rw [waiting_movePendingToOrphaned h hp]

lemma foldl_movePendingToOrphaned (h : Balanced m [] [] s) (hnam : s.Names [])
    (hwait : ∀ p ∈ failed, p.site ∈ s.waiting) :
    Balanced m [] [] (failed.foldl Store.movePendingToOrphaned s) ∧
      (failed.foldl Store.movePendingToOrphaned s).Names [] := by
  induction failed generalizing s with
  | nil => exact ⟨h, hnam⟩
  | cons p _ ih =>
    have hp := hwait p mem_cons_self
    refine ih (h.movePendingToOrphaned hp) (hnam.movePendingToOrphaned h hp) fun q hq => ?_
    rw [waiting_movePendingToOrphaned h hp]
    exact hwait q (mem_cons_of_mem p hq)

lemma sameLive_commitCleanup (s : Store) (cleared failed : List Physical) :
    Store.SameLive s (s.commitCleanup cleared failed).1 :=
  (Store.SameLive.foldl Store.sameLive_remove cleared s).trans
    (Store.SameLive.foldl Store.sameLive_moved failed _)

lemma Cleaning.commit (h : Cleaning start cleared failed [] w) :
    World.Sound { w with store := (w.store.commitCleanup cleared failed).1 } ∧
      World.Held [] [] { w with store := (w.store.commitCleanup cleared failed).1 } := by
  obtain ⟨⟨es, hfl⟩, hwait, hnd⟩ := h
  rw [append_nil] at hwait hnd
  obtain ⟨h₁, h₂, h₃⟩ := foldl_removePhysicalEvidence hfl.held hnd hfl.sound.hints
    fun p hp => Store.mem_waiting.mpr (hwait p hp)
  obtain ⟨h₄, h₅⟩ := foldl_movePendingToOrphaned h₁ h₂ h₃
  have hsm := sameLive_commitCleanup w.store cleared failed
  simp only [Store.commitCleanup] at hsm ⊢
  generalize failed.foldl Store.movePendingToOrphaned _ = s at h₄ h₅ hsm ⊢
  have hs := hfl.sound
  refine ⟨?_, h₄⟩
  constructor
  case hints => exact h₅
  case unfenced => simpa only [hsm.live, hsm.cleanupOwners] using hs.unfenced
  case nonneg => simpa only [hsm.nextDAPID] using hs.nonneg
  case range => simpa only [hsm.nextDAPID] using hs.range
  case ids => exact hs.ids
  all_goals simp only [hsm.live]
  · exact hs.keys
  · exact hs.verified
  · exact hs.records
  · exact hs.issuedTo
  · exact hs.liveIds

/-- What is left when a cleanup has returned. -/
def Settled (w : World) : Prop := w.Sound ∧ w.Held [] []

lemma Settled.holds : Holds Detaches Sound Settled where
  stable := by
    rintro s t ⟨other, visit, rfl⟩ ⟨hs, hh⟩
    exact ⟨hs.detach hh other visit, hh.detach other visit⟩
  now := fun _ h => h.1

theorem safe_cleanupPending (h : Flight "" w [] [] [] w) :
    Safe World.env Detaches Sweeps Sound (fun _ => Settled) cleanupPending w := by
  refine safe_modify Flight.holds h fun t ht => ⟨Sweeps.refl t, ?_⟩
  have hst : Cleaning w [] [] (t.store.pending ++ t.store.orphaned) t := by
    refine ⟨⟨[], ht⟩, ?_, ?_⟩
    · intro p hp
      rw [append_nil, nil_append] at hp
      exact (mem_append.mp hp).imp mem_sites mem_sites
    have hnd := ht.held.nodup_tracked
    simp only [Store.tracked, append_assoc, tokens_append] at hnd ⊢
    exact (nodup_append.mp hnd).2.1
  refine safe_bind ((safe_clearEach _ [] [] t hst).mono ?_)
  rintro ⟨cleared, failed⟩ w₁ h₁
  exact safe_modify Cleaning.holds h₁ fun w₂ h₂ =>
    have hsm := sameLive_commitCleanup w₂.store cleared failed
    ⟨⟨⟨hsm.cleanupOwners, fun τ hτ => (congrFun hsm.hintTokens τ).trans hτ⟩, hsm.live, rfl⟩,
      safe_ret Settled.holds h₂.commit⟩

end Safe

end MultiDap.Breakpoint
