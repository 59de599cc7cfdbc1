import Mathlib

/-!
# Frames of the bridge

The reader of the bridge tests the size of a frame twice: on the bytes that have arrived, and on the
line without its carriage return. A frame of the largest size that ends with CR LF is therefore
accepted or refused depending on where a chunk ends.
-/

namespace MultiDap.Bridge

open List

inductive Outcome where
  | ended | unterminated | oversize
  deriving DecidableEq

def stripped (line : List UInt8) : List UInt8 :=
  if line.getLast? = some 13 then line.dropLast else line

/-- One frame, with what is left in the buffer and on the connection. -/
def read (maxMessageSize : Nat) (buffer : List UInt8) (chunks : List (List UInt8)) :
    Except Outcome (List UInt8 × List UInt8 × List (List UInt8)) :=
  if 10 ∈ buffer then
    let line := stripped (buffer.takeWhile (· ≠ 10))
    if line.length > maxMessageSize then .error .oversize
    else .ok (line, (buffer.dropWhile (· ≠ 10)).tail, chunks)
  else if buffer.length > maxMessageSize then .error .oversize
  else
    match chunks with
    | [] => .error (if buffer = [] then .ended else .unterminated)
    | chunk :: chunks =>
      if (buffer ++ chunk).length > maxMessageSize ∧ 10 ∉ buffer ++ chunk then .error .oversize
      else read maxMessageSize (buffer ++ chunk) chunks

section

variable (maxMessageSize : Nat)

/-- The frames of a connection, and how it ends. -/
inductive Reads : List UInt8 → List (List UInt8) → List (List UInt8) → Outcome → Prop where
  | stop {buffer chunks outcome} (h : read maxMessageSize buffer chunks = .error outcome) :
      Reads buffer chunks [] outcome
  | frame {buffer chunks line rest left frames outcome}
      (h : read maxMessageSize buffer chunks = .ok (line, rest, left))
      (hrest : Reads rest left frames outcome) : Reads buffer chunks (line :: frames) outcome

/-- The socket gives the bytes in these chunks. -/
def Splits (chunks : List (List UInt8)) (stream : List UInt8) : Prop :=
  chunks.flatten = stream ∧ ∀ chunk ∈ chunks, chunk ≠ [] ∧ chunk.length ≤ 4096

/-- A line of the largest size ends with CR LF, and the lines before it are accepted. -/
inductive Marginal : List UInt8 → Prop where
  | here {line rest} (hline : 10 ∉ line) (hlength : line.length = maxMessageSize) :
      Marginal (line ++ 13 :: 10 :: rest)
  | later {line rest} (hline : 10 ∉ line) (hlength : (stripped line).length ≤ maxMessageSize)
      (hrest : Marginal rest) : Marginal (line ++ 10 :: rest)

end

variable {n : Nat} {b l s t r : List UInt8} {cs ds fs : List (List UInt8)} {o : Outcome}

lemma of_stripped_le (h : (stripped l).length ≤ n) (hn : n < l.length) :
    ∃ a, l = a ++ [13] ∧ a.length = n := by
  unfold stripped at h
  split_ifs at h with hcr
  · obtain ⟨a, rfl⟩ := getLast?_eq_some_iff.mp hcr
    rw [dropLast_concat] at h
    rw [length_append, length_singleton] at hn
    exact ⟨a, rfl, by omega⟩
  · omega

lemma read_line (h : 10 ∉ l) : read n (l ++ 10 :: r) cs =
    if (stripped l).length > n then .error .oversize else .ok (stripped l, r, cs) := by
  have hl : ∀ x ∈ l, decide (x ≠ 10) = true := fun x hx => by
    simpa using fun heq : x = 10 => h (heq ▸ hx)
  rw [read.eq_def, if_pos (by simp), takeWhile_append_of_pos hl, dropWhile_append_of_pos hl]
  simp

lemma read_eq_ok (h : read n s [] = .ok (l, r, ds)) :
    ∃ u, 10 ∉ u ∧ (stripped u).length ≤ n ∧ s = u ++ 10 :: r ∧ ds = [] := by
  by_cases hs : 10 ∈ s
  · obtain ⟨u, v, rfl, hu⟩ := eq_append_cons_of_mem hs
    rw [read_line hu] at h
    split_ifs at h with hlong
    cases h
    exact ⟨u, hu, Nat.le_of_not_lt hlong, rfl, rfl⟩
  · rw [read.eq_def, if_neg hs] at h
    split_ifs at h

lemma read_long (h : 10 ∉ b) (hn : n < b.length) (hm : ¬ Marginal n (b ++ t)) :
    read n (b ++ t) [] = .error .oversize := by
  by_cases ht : 10 ∈ t
  · obtain ⟨u, v, rfl, hu⟩ := eq_append_cons_of_mem ht
    rw [← append_assoc, read_line (by simp [h, hu])]
    refine if_pos (Nat.lt_of_not_le fun hle => hm ?_)
    obtain ⟨a, heq, ha⟩ := of_stripped_le hle (by rw [length_append]; omega)
    -- the bytes are all of the line
    have hlen := congrArg length heq
    rw [length_append, length_append, length_singleton] at hlen
    obtain rfl : u = [] := length_eq_zero_iff.mp (by omega)
    rw [append_nil] at heq
    subst heq
    rw [nil_append, append_assoc]
    exact .here (fun hmem => h (mem_append_left _ hmem)) ha
  · rw [read.eq_def, if_neg (by simp [h, ht]), if_pos (by rw [length_append]; omega)]

/-- What one frame leaves, with the chunks that have not arrived. -/
def buffered (out : List UInt8 × List UInt8 × List (List UInt8)) :
    List UInt8 × List UInt8 × List (List UInt8) :=
  (out.1, out.2.1 ++ out.2.2.flatten, [])

lemma read_flatten_of_mem (h : 10 ∈ b) :
    read n (b ++ cs.flatten) [] = (read n b cs).map buffered := by
  obtain ⟨u, v, rfl, hu⟩ := eq_append_cons_of_mem h
  rw [append_assoc, cons_append, read_line hu, read_line hu]
  split_ifs <;> rfl

lemma read_flatten (hm : ¬ Marginal n (b ++ cs.flatten)) :
    read n (b ++ cs.flatten) [] = (read n b cs).map buffered := by
  induction cs generalizing b with
  | nil =>
    by_cases h : 10 ∈ b
    · exact read_flatten_of_mem h
    · rw [flatten_nil, append_nil, read.eq_def, if_neg h]
      split_ifs <;> rfl
  | cons c cs ih =>
    by_cases h : 10 ∈ b
    · exact read_flatten_of_mem h
    rw [read.eq_def n b, if_neg h]
    by_cases hlong : b.length > n
    · rw [if_pos hlong]
      exact read_long h hlong hm
    rw [if_neg hlong]
    dsimp only
    rw [flatten_cons, ← append_assoc] at hm ⊢
    split_ifs with hlong'
    · exact read_long hlong'.2 hlong'.1 hm
    · exact ih hm

lemma Reads.of_flatten (h : Reads n s [] fs o) (hs : s = b ++ cs.flatten) (hm : ¬ Marginal n s) :
    Reads n b cs fs o := by
  generalize hd : ([] : List (List UInt8)) = ds at h
  induction h generalizing b cs with
  | stop h =>
    subst hs hd
    rw [read_flatten hm] at h
    cases hr : read n b cs with
    | ok => simp [hr, Except.map] at h
    | error =>
      rw [hr] at h
      cases h
      exact .stop hr
  | frame h _ ih =>
    subst hs hd
    obtain ⟨u, hu, hshort, hs, -⟩ := read_eq_ok h
    rw [read_flatten hm] at h
    cases hr : read n b cs with
    | error => simp [hr, Except.map] at h
    | ok =>
      rw [hr] at h
      cases h
      exact .frame hr (ih rfl (fun hrest => hm (hs ▸ .later hu hshort hrest)) rfl)

lemma exists_reads (s : List UInt8) : ∃ fs o, Reads n s [] fs o := by
  induction hlen : s.length using Nat.strongRecOn generalizing s with
  | ind k ih =>
    cases h : read n s [] with
    | error o => exact ⟨[], o, .stop h⟩
    | ok out =>
      obtain ⟨line, rest, left⟩ := out
      obtain ⟨u, -, -, hs, hleft⟩ := read_eq_ok h
      obtain ⟨fs, o, hrest⟩ := ih rest.length (by rw [← hlen, hs]; simp; omega) _ rfl
      exact ⟨_, o, .frame h (hleft ▸ hrest)⟩

/-! ### Two ways to split a stream -/

lemma read_singles (h : 10 ∉ b ++ l) (hn : (b ++ l).length ≤ n) :
    read n b (l.map ([·]) ++ cs) = read n (b ++ l) cs := by
  induction l generalizing b with
  | nil => rw [append_nil, map_nil, nil_append]
  | cons a l ih =>
    rw [append_cons] at h hn ⊢
    have hlen := hn
    simp only [length_append, length_singleton] at hlen
    rw [map_cons, cons_append, read.eq_def, if_neg fun hb => h (by simp [hb]), if_neg (by omega)]
    dsimp only
    rw [if_neg (by simp; omega)]
    exact ih h hn

lemma read_arrives {c : List UInt8} (h : 10 ∉ l) (hn : l.length ≤ n) (hc : 10 ∈ c) :
    read n [] (l.map ([·]) ++ c :: cs) = read n (l ++ c) cs := by
  rw [read_singles (b := []) h hn, nil_append, read.eq_def, if_neg h, if_neg (by omega)]
  dsimp only
  rw [if_neg fun hno => hno.2 (mem_append_right _ hc)]

lemma splits_singles (l : List UInt8) : Splits (l.map ([·])) l := by
  refine ⟨?_, fun c hc => ?_⟩
  · induction l with
    | nil => rfl
    | cons a l ih => rw [map_cons, flatten_cons, ih, singleton_append]
  · obtain ⟨a, -, rfl⟩ := mem_map.mp hc
    exact ⟨cons_ne_nil _ _, by simp⟩

lemma Splits.append (h : Splits cs s) (h' : Splits ds t) : Splits (cs ++ ds) (s ++ t) :=
  ⟨by rw [flatten_append, h.1, h'.1], fun c hc => (mem_append.mp hc).elim (h.2 c) (h'.2 c)⟩

lemma splits_cons (c : List UInt8) (hc : c ≠ [] ∧ c.length ≤ 4096) (h : Splits cs s) :
    Splits (c :: cs) (c ++ s) :=
  ⟨by rw [flatten_cons, h.1], fun d hd => (mem_cons.mp hd).elim (fun heq => heq ▸ hc) (h.2 d)⟩

lemma Reads.rest (h : Reads n b cs fs o) (hr : read n b cs = .ok (l, r, ds)) :
    ∃ gs, fs = l :: gs ∧ Reads n r ds gs o := by
  cases h with
  | stop h => cases hr.symm.trans h
  | frame h hrest =>
    cases hr.symm.trans h
    exact ⟨_, rfl, hrest⟩

/-- Two ways to split a stream give different frames. -/
def Disagree (maxMessageSize : Nat) (stream : List UInt8) : Prop :=
  ∃ chunks chunks', Splits chunks stream ∧ Splits chunks' stream ∧ ∀ frames outcome,
    Reads maxMessageSize [] chunks frames outcome → ¬ Reads maxMessageSize [] chunks' frames outcome

lemma disagree_here (h : 10 ∉ l) (hn : l.length = n) : Disagree n (l ++ 13 :: 10 :: r) := by
  refine ⟨l.map ([·]) ++ [13, 10] :: r.map ([·]), l.map ([·]) ++ [13] :: [10] :: r.map ([·]),
    (splits_singles l).append (splits_cons _ (by simp) (splits_singles r)),
    (splits_singles l).append (splits_cons _ (by simp)
      (splits_cons _ (by simp) (splits_singles r))),
    fun fs o hfs hno => ?_⟩
  -- together, the two bytes end the line; a carriage return alone is a byte too many
  have hacc : read n [] (l.map ([·]) ++ [13, 10] :: r.map ([·])) = .ok (l, [], r.map ([·])) := by
    rw [read_arrives h (Nat.le_of_eq hn) (by simp), append_cons, read_line (by simp [h])]
    simp [stripped, hn]
  have href : read n [] (l.map ([·]) ++ [13] :: [10] :: r.map ([·])) = .error .oversize := by
    rw [read_singles (b := []) h (Nat.le_of_eq hn), nil_append, read.eq_def, if_neg h,
      if_neg (by omega)]
    dsimp only
    rw [if_pos (by simp [h, hn])]
  obtain ⟨gs, rfl, -⟩ := hfs.rest hacc
  cases hno with
  | frame h => cases href.symm.trans h

lemma Marginal.disagree (h : Marginal n s) : Disagree n s := by
  induction h with
  | here hline hlength => exact disagree_here hline hlength
  | @later u r hu hshort _ ih =>
    by_cases hn : u.length ≤ n
    · obtain ⟨cs, ds, hcs, hds, hno⟩ := ih
      have hread (cs : List (List UInt8)) :
          read n [] (u.map ([·]) ++ [10] :: cs) = .ok (stripped u, [], cs) := by
        rw [read_arrives hu hn (by simp), read_line hu, if_neg (Nat.not_lt.mpr hshort)]
      refine ⟨_, _, (splits_singles u).append (splits_cons [10] (by simp) hcs),
        (splits_singles u).append (splits_cons [10] (by simp) hds), fun fs o hfs hfs' => ?_⟩
      obtain ⟨gs, rfl, hgs⟩ := hfs.rest (hread cs)
      obtain ⟨gs', heq, hgs'⟩ := hfs'.rest (hread ds)
      cases heq
      exact hno gs o hgs hgs'
    · obtain ⟨a, rfl, ha⟩ := of_stripped_le hshort (Nat.lt_of_not_le hn)
      rw [append_assoc]
      exact disagree_here (fun hmem => hu (mem_append_left _ hmem)) ha

/-- Every way to split a stream gives the same frames and the same end exactly if no accepted line
of the largest size ends with CR LF. -/
theorem reads_split_iff (maxMessageSize : Nat) (stream : List UInt8) :
    (∃ frames outcome, ∀ chunks, Splits chunks stream →
      Reads maxMessageSize [] chunks frames outcome) ↔ ¬ Marginal maxMessageSize stream := by
  constructor
  · rintro ⟨frames, outcome, hall⟩ hm
    obtain ⟨chunks, chunks', hs, hs', hno⟩ := hm.disagree
    exact hno frames outcome (hall chunks hs) (hall chunks' hs')
  intro hm
  obtain ⟨frames, outcome, hreads⟩ := exists_reads (n := maxMessageSize) stream
  refine ⟨frames, outcome, fun chunks hs => hreads.of_flatten ?_ hm⟩
  rw [nil_append, hs.1]

/-- The frame `a`, with a limit of one byte. -/
theorem reads_depend_on_split :
    Reads 1 [] [[97, 13, 10]] [[97]] .ended ∧ Reads 1 [] [[97, 13], [10]] [] .oversize :=
  ⟨.frame rfl (.stop rfl), .stop rfl⟩

end MultiDap.Bridge
