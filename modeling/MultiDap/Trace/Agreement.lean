import MultiDap.Trace.Generations

/-!
# What the controller sees of a helper

The replies of a helper, in the order in which they were sent, agree with each other: generations
do not decrease, and within one the information stays the same and the packets only grow. A
controller that gets some of them, in this order, therefore never refuses a status.
-/

namespace MultiDap.Trace

open Machine List TimeMachine

namespace HelperSession

variable {s t : Session} {fits : Nat → Prop} {reply : Reply}

/-! ### Replies in their order -/

def Precedes (earlier later : HelperStatus) : Prop :=
  earlier.generation ≤ later.generation ∧
    (earlier.generation = later.generation →
      earlier.infoHex = later.infoHex ∧ earlier.packetCount ≤ later.packetCount)

def Reply.Precedes : Reply → Reply → Prop
  | .status a, .status b => HelperSession.Precedes a b
  | .status a, .control b => a.generation ≤ b.generation
  | .control a, .status b => a.generation ≤ b.generation
  | .control a, .control b => a.generation ≤ b.generation
  | _, _ => True

def Reply.Before (s : Session) : Reply → Prop
  | .status told =>
    told.generation ≤ s.generation ∧ (told.generation = s.generation → s.info ≠ [] ∧
      told.infoHex = TimeMachine.encodeHex s.info ∧ told.packetCount ≤ s.count)
  | .control told => told.generation ≤ s.generation
  | .read _ | .closed => True

def Reply.WellFormed (fits : Nat → Prop) : Reply → Prop
  | .status told => 1 ≤ told.generation ∧
    ∃ info, told.infoHex = TimeMachine.encodeHex info ∧ fits info.length
  | .control told => 1 ≤ told.generation
  | .read _ | .closed => True

lemma Reply.Before.continues (h : reply.Before s) (hc : s.Consistent fits)
    (hco : Continues fits s t) : t.faulted = true ∨ reply.Before t := by
  refine (hco.later hc).imp_right fun ⟨_, hle, hsm⟩ => ?_
  cases reply with
  | status =>
    refine ⟨Nat.le_trans h.1 hle, fun heq => ?_⟩
    have hge : t.generation = s.generation := Nat.le_antisymm (heq ▸ h.1) hle
    obtain ⟨hin, hhex, hcu⟩ := h.2 (heq.trans hge)
    obtain ⟨hkp, hgro⟩ := hsm hge
    rw [hkp.resolve_left hin]
    exact ⟨hin, hhex, Nat.le_trans hcu hgro⟩
  | control => exact Nat.le_trans h hle
  | read => trivial
  | closed => trivial

lemma Reply.Before.precedes {next : Reply} (h : reply.Before t) (hnx : next.Describes t) :
    reply.Precedes next := by
  cases reply with
  | status =>
    cases next with
    | status =>
      obtain ⟨hhex, hcu, hge, -, -⟩ := hnx
      refine ⟨hge ▸ h.1, fun heq => ?_⟩
      obtain ⟨-, hin, hle⟩ := h.2 (heq.trans hge)
      exact ⟨hin.trans hhex.symm, hcu ▸ hle⟩
    | control => exact Nat.le_trans h.1 (Nat.le_of_eq hnx.symm)
    | read | closed => trivial
  | control =>
    cases next with
    | status =>
      obtain ⟨-, -, hge, -, -⟩ := hnx
      exact Nat.le_trans h (Nat.le_of_eq hge.symm)
    | control => exact Nat.le_trans h (Nat.le_of_eq hnx.symm)
    | read | closed => trivial
  | read => trivial
  | closed => trivial

lemma Reply.Describes.before (h : reply.Describes s) (hc : s.Consistent fits)
    (hfits : ∀ n, fits n → n ≠ 0) : reply.Before s := by
  cases reply with
  | status =>
    obtain ⟨hhex, hcu, hge, hon, hsize⟩ := h
    refine ⟨Nat.le_of_eq hge, fun _ => ⟨?_, hhex, Nat.le_of_eq hcu⟩⟩
    rw [← length_pos_iff, hsize]
    exact Nat.pos_of_ne_zero (hfits _ (hc.sized hon))
  | control => exact Nat.le_of_eq h
  | read => trivial
  | closed => trivial

lemma Reply.Describes.wellFormed (h : reply.Describes s) (hc : s.Consistent fits) :
    reply.WellFormed fits := by
  cases reply with
  | status =>
    obtain ⟨hhex, -, hge, hon, hsize⟩ := h
    exact ⟨hge ▸ hc.started, s.info, hhex, hsize ▸ hc.sized hon⟩
  | control => exact Nat.le_trans hc.started (Nat.le_of_eq h.symm)
  | read => trivial
  | closed => trivial

/-! ### Runs of a helper -/

def Serving.replies (serving : Serving) : List Reply :=
  serving.sent.filterMap fun
    | .ok reply => some reply
    | .error _ => none

/-- Whatever a run of a helper has sent agrees with itself and with the session. -/
structure Serving.Agrees (fits : Nat → Prop) (serving : Serving) : Prop where
  current : serving.session.faulted = true ∨ serving.session.Consistent fits ∧
    ∀ reply ∈ serving.replies, reply.Before serving.session
  ordered : serving.replies.Pairwise Reply.Precedes
  wellFormed : ∀ reply ∈ serving.replies, reply.WellFormed fits

/-- An open request asks for a size that fits. -/
def Event.Fits (fits : Nat → Prop) : Event → Prop
  | .request op args _ => op = "open" → fits (infoSize args)
  | .pump _ => True

lemma current_continues {replies : List Reply} (hco : Continues fits s t)
    (h : s.faulted = true ∨ s.Consistent fits ∧ ∀ reply ∈ replies, reply.Before s) :
    t.faulted = true ∨ t.Consistent fits ∧ ∀ reply ∈ replies, reply.Before t := by
  rcases h with hf | ⟨hc, hbe⟩
  · exact .inl (hco.faulted hf)
  rcases hco.later hc with hf | ⟨hc', -, -⟩
  · exact .inl hf
  by_cases hf : t.faulted = true
  · exact .inl hf
  · exact .inr ⟨hc', fun reply hreply =>
      ((hbe reply hreply).continues hc hco).resolve_left hf⟩

variable {serving : Serving}

lemma Serving.Agrees.silent {serving' : Serving} (h : serving.Agrees fits)
    (hco : Continues fits serving.session serving'.session)
    (hre : serving'.replies = serving.replies) : serving'.Agrees fits := by
  refine ⟨?_, ?_, ?_⟩
  · rw [hre]
    exact current_continues hco h.current
  · exact hre ▸ h.ordered
  · exact hre ▸ h.wellFormed

lemma replies_sent_error (serving : Serving) (ses : Session) (ended : Bool) (code : String) :
    Serving.replies ⟨ses, ended, serving.sent ++ [.error code]⟩ = serving.replies := by
  simp [Serving.replies]

lemma replies_sent_ok (serving : Serving) (ses : Session) (ended : Bool) (reply : Reply) :
    Serving.replies ⟨ses, ended, serving.sent ++ [.ok reply]⟩ = serving.replies ++ [reply] := by
  simp [Serving.replies]

lemma Serving.Agrees.answer {ses : Session} (h : serving.Agrees fits)
    (hfits : ∀ n, fits n → n ≠ 0) (hco : Continues fits serving.session ses)
    (hans : Answered reply ses) :
    Serving.Agrees fits ⟨ses, serving.ended, serving.sent ++ [.ok reply]⟩ := by
  obtain ⟨hfa, hdes⟩ := hans
  obtain ⟨hc, hbe⟩ :=
    (current_continues hco h.current).resolve_left (by simp [hfa])
  refine ⟨.inr ⟨hc, fun r hr => ?_⟩, ?_, fun r hr => ?_⟩ <;>
    simp only [replies_sent_ok] at *
  · rcases mem_append.mp hr with hr | hr
    · exact hbe r hr
    · rw [mem_singleton.mp hr]
      exact hdes.before hc hfits
  · refine pairwise_append.mpr ⟨h.ordered, pairwise_singleton _ _, fun r hr next hnx => ?_⟩
    rw [mem_singleton.mp hnx]
    exact (hbe r hr).precedes hdes
  rcases mem_append.mp hr with hr | hr
  · exact h.wellFormed r hr
  · rw [mem_singleton.mp hr]
    exact hdes.wellFormed hc

variable {isAbs : String → Bool}

lemma Serving.Agrees.step {serving' : Serving} {evt : Event}
    (hfits : ∀ n, fits n → n ≠ 0) (h : serving.Agrees fits) (heve : evt.Fits fits)
    (hst : serving.step isAbs evt = some serving') : serving'.Agrees fits := by
  cases evt with
  | pump pol =>
    have hco : Continues fits serving.session _ := refresh_proceeds pol serving.session
    simp only [Serving.step] at hst
    split at hst <;> rename_i hexec <;> rw [hexec] at hco <;>
      cases hst <;> exact h.silent hco rfl
  | request op args native =>
    have hco := dispatch_proceeds isAbs op args native heve serving.session
    simp only [Serving.step] at hst
    split_ifs at hst
    split at hst <;> rename_i hexec <;> rw [hexec] at hco <;>
      cases hst
    · exact h.answer hfits hco (dispatch_answered hexec)
    · exact h.silent hco (replies_sent_error ..)
    · exact h.silent hco (replies_sent_error ..)

lemma agrees_run {es : List Event} (hfits : ∀ n, fits n → n ≠ 0) (heven : ∀ evt ∈ es, evt.Fits fits)
    (hru : run (Serving.step isAbs) {} es = some serving) : serving.Agrees fits := by
  have hst (u : Serving) (e : Event) (v : Serving) :
      u.Agrees fits → e.Fits fits → u.step isAbs e = some v → v.Agrees fits :=
    fun h => h.step hfits
  have hini : Serving.Agrees fits {} := by
    refine ⟨.inr ⟨⟨.inr ⟨rfl, rfl, rfl⟩, ?_, Nat.le_refl 1⟩, ?_⟩, .nil, ?_⟩ <;>
      simp [Serving.replies]
  exact along_invariant hst hini (along_of_forall fun _ => heven) hru

def statuses (replies : List Reply) : List HelperStatus :=
  replies.filterMap fun
    | .status told => some told
    | _ => none

end HelperSession

/-! ### The controller -/

open HelperSession

namespace Controller

variable {c : Controller}

/-- The controller gets one reply after the other: a status is observed, and what a start or stop
request is answered with is committed. -/
def follow (c : Controller) : List Reply → Except Error Controller
  | [] => .ok c
  | .status told :: rest => do (← c.observe told).follow rest
  | .control told :: rest =>
    follow (c.commitSucceeded .start { control := some told } false).controller rest
  | .read _ :: rest | .closed :: rest => c.follow rest

/-- What the controller knows is not ahead of a reply. -/
def Behind (c : Controller) : Reply → Prop
  | .status told =>
    c.status.nativeGeneration ≤ told.generation ∧
      (told.generation = c.status.nativeGeneration →
        (c.infoHex = [] ∨ c.infoHex = told.infoHex) ∧
        (c.status.packetCountKnown = true → c.status.packetCount ≤ told.packetCount))
  | _ => True

/-- The controller after a status that it has accepted. -/
def learn (c : Controller) (told : HelperStatus) (timebase : TimeMachine.TimeUnit) : Controller :=
  { c with
    infoHex := told.infoHex
    status := { c.status with
      nativeGeneration := told.generation
      packetCount := told.packetCount
      packetCountKnown := true
      timebase := timebase
      traceState := told.traceState } }

lemma observe_ok {told : HelperStatus} {info : List UInt8}
    (hpr : TimeMachine.validateProfile c.options.profile = none)
    (hhex : told.infoHex = TimeMachine.encodeHex info)
    (hsize : info.length = c.options.profile.abi.infoSize) (hge : 1 ≤ told.generation)
    (hbeh : c.Behind (.status told)) :
      ∃ timebase, c.observe told = .ok (c.learn told timebase) := by
  obtain ⟨hle, hsm⟩ := hbeh
  unfold observe
  rw [hhex, decodeHex_encodeHex]
  simp only [decodeInfo, hpr, hsize, ne_eq, not_true_eq_false, if_false]
  rw [if_neg (by omega), if_neg]
  · simp only [learn, hhex]
    exact ⟨_, rfl⟩
  rintro ⟨heq, ⟨hne, hne'⟩ | ⟨hkn, hlt⟩⟩
  · rcases (hsm heq).1 with h | h
    · exact hne h
    · exact hne' (h.trans hhex)
  · exact absurd ((hsm heq).2 hkn) (by omega)

lemma follow_ok {replies : List Reply} (hpr : TimeMachine.validateProfile c.options.profile = none)
    (hord : replies.Pairwise Reply.Precedes)
    (hwel : ∀ reply ∈ replies, reply.WellFormed (· = c.options.profile.abi.infoSize))
    (hbeh : ∀ reply ∈ replies, c.Behind reply) : ∃ c', c.follow replies = .ok c' := by
  induction replies generalizing c with
  | nil => exact ⟨c, rfl⟩
  | cons reply _ ih =>
    obtain ⟨hpre, hla⟩ := pairwise_cons.mp hord
    obtain ⟨hreply, hre⟩ := forall_mem_cons.mp hwel
    obtain ⟨hbeh, hrs⟩ := forall_mem_cons.mp hbeh
    cases reply with
    | status told =>
      obtain ⟨hge, info, hhex, hsize⟩ := hreply
      obtain ⟨timebase, hc'⟩ := observe_ok hpr hhex hsize hge hbeh
      simp only [follow, hc']
      refine ih (c := c.learn told timebase) hpr hla hre fun next hnx => ?_
      have hagr := hpre next hnx
      cases next with
      | status =>
        obtain ⟨hle, hsm⟩ := hagr
        refine ⟨hle, fun heq => ?_⟩
        obtain ⟨hhex', hle'⟩ := hsm heq.symm
        exact ⟨.inr hhex', fun _ => hle'⟩
      | control | read | closed => trivial
    | control =>
      refine ih hpr hla hre fun next hnx => ?_
      have hagr := hpre next hnx
      cases next with
      | status => exact ⟨hagr, fun _ => ⟨.inl rfl, nofun⟩⟩
      | control | read | closed => trivial
    | read | closed => exact ih hpr hla hre hrs

end Controller

namespace HelperSession

/-- The open request is the one of a controller for this release. -/
def Event.Opens (version : String) : Event → Prop
  | .request op args _ => op = "open" → args.lookup "multi_version" = some (.str version)
  | .pump _ => True

variable {profile : TimeMachine.Profile} {version : String}

lemma Event.Opens.fits {evt : Event}
    (hpr : TimeMachine.profileForVersion version = .ok profile) (h : evt.Opens version) :
    evt.Fits (· = profile.abi.infoSize) := by
  cases evt with
  | pump => trivial
  | request =>
    intro hop
    simp only [profileForVersion] at hpr
    unfold infoSize
    rw [h hop]
    split_ifs at hpr with hnew hold
    · cases hpr
      simp [hnew, baseABI]
    · cases hpr
      simp [hold, baseABI]

section

variable (h : TimeMachine.profileForVersion version = .ok profile)

include h

lemma version_of_ok : profile.version = version := by
  simp only [profileForVersion] at h
  split_ifs at h <;> cases h <;> rfl

lemma validateProfile_of_version : TimeMachine.validateProfile profile = none := by
  simp [validateProfile, version_of_ok h, h]

lemma infoSize_ne_zero_of_profileForVersion : profile.abi.infoSize ≠ 0 := by
  simp only [profileForVersion] at h
  split_ifs at h <;> cases h <;> simp [baseABI]

end

lemma infoSize_ne_zero (args : Args) : infoSize args ≠ 0 := by
  unfold infoSize
  split_ifs <;> decide

/-- The statuses of a helper agree with each other, whatever the native library reports, and the
controller that has opened it accepts those it gets to see. -/
theorem statuses_agree (isAbs : String → Bool) {events : List Event} {serving : Serving}
    (hru : run (Serving.step isAbs) {} events = some serving) :
    (statuses serving.replies).Pairwise Precedes ∧
      ∀ (c : Controller) (owner : String) (source : TimeMachine.Source) (version : String),
        TimeMachine.profileForVersion version = .ok c.options.profile →
        (∀ event ∈ events, event.Opens version) → ∀ seen, seen.Sublist serving.replies →
          ∃ c', (c.beginOpen owner source).follow seen = .ok c' := by
  refine ⟨?_, fun c owner source version hpr hope seen hseen => ?_⟩
  · have hagr : serving.Agrees (· ≠ 0) := agrees_run (fun _ => id) (fun event _ => ?_) hru
    · refine List.Pairwise.filterMap _ ?_ hagr.ordered
      intro a a' hpre b hb b' hb'
      cases a <;> cases a' <;> simp only [reduceCtorEq, Option.some.injEq] at hb hb'
      subst hb hb'
      exact hpre
    cases event with
    | pump => trivial
    | request _ args => exact fun _ => infoSize_ne_zero args
  · have hsize := infoSize_ne_zero_of_profileForVersion hpr
    have hagr : serving.Agrees (· = c.options.profile.abi.infoSize) :=
      agrees_run (fun n hn => hn ▸ hsize) (fun event heve => (hope event heve).fits hpr) hru
    refine Controller.follow_ok (validateProfile_of_version hpr)
      (hagr.ordered.sublist hseen) (fun reply hreply => hagr.wellFormed reply (hseen.mem hreply))
      fun reply hreply => ?_
    -- a controller that has just begun to open knows nothing
    cases reply with
    | status => exact ⟨Nat.zero_le _, fun _ => ⟨.inl rfl, nofun⟩⟩
    | control | read | closed => trivial

/-- What a library reports about a recording with so many packets. -/
def recording (count : Int) (events : List Notification) : Polled where
  pollEvents := .ok ⟨⟩
  getInfo := .ok (some (List.replicate 64 0))
  packetCount := .ok (some count)
  drainNotifications := .ok (some ⟨events.map some, 0, 0, false, false⟩)

def recordings (first second : Polled) : Native where
  factory := .ok ⟨⟩
  initialized := .ok ⟨⟩
  connect := .ok ⟨⟩
  close := .ok ⟨⟩
  control := .ok ⟨⟩
  getPackets := .ok none
  first := first
  second := second

/-- The recording grows, is cleared between two requests, and is started again. -/
def clearedEvents : List Event :=
  [.request "open" [("installation", .str "/ghs"), ("multi_version", .str "8.1.4"),
      ("dll_sha256", .str (String.ofList (List.replicate 64 '0'))), ("session_id", .int 1)]
      (recordings (recording 10 []) (recording 10 [])),
    .request "status" [] (recordings (recording 20 []) (recording 20 [])),
    .pump (recording 0 []),
    .request "status" [] (recordings (recording 5 []) (recording 5 [])),
    .request "start" [("authorized", .bool true)]
      (recordings (recording 5 []) (recording 0 [.traceStart])),
    .request "status" [] (recordings (recording 3 []) (recording 3 []))]

/-- The generations and the packets that the statuses tell of. -/
def Serving.told (serving : Serving) : List (Nat × Nat) :=
  (statuses serving.replies).map fun told => (told.generation, told.packetCount)

theorem statuses_agree_cleared : ∃ serving : Serving,
    run (Serving.step fun _ => true) {} clearedEvents = some serving ∧
      serving.told = [(1, 10), (1, 20), (2, 5), (3, 3)] ∧
      ∃ c', (Controller.beginOpen { options := { profile := ⟨"8.1.4", TimeMachine.baseABI 64 64,
        false,
        true, true⟩ } } "owner" noSource).follow serving.replies = .ok c' := by
  have hexi : ∃ serving : Serving,
      run (Serving.step fun _ => true) {} clearedEvents = some serving ∧
        serving.told = [(1, 10), (1, 20), (2, 5), (3, 3)] := exists_run (by decide +kernel)
  obtain ⟨serving, hru, htold⟩ := hexi
  refine ⟨serving, hru, htold, (statuses_agree _ hru).2 _ "owner" noSource "8.1.4" rfl ?_ _
    (List.Sublist.refl _)⟩
  simp only [clearedEvents, forall_mem_cons, Event.Opens]
  refine ⟨fun _ => rfl, ?_⟩
  simp

end HelperSession

end MultiDap.Trace
