import EventLog.Layout.Printer

set_option autoImplicit false

/-! # Layouts are compiled chunk by chunk

There is only one way to divide a layout into a text without a percent sign and chunks that each start
with one and hold no other (`isDivision_iff`). A layout can be read in this way from left to right: from
the percent sign at one position the next one is looked for, and what lies between the two positions is a
chunk. Such a reading ends after as many steps as there are percent signs. What carries this is that after
each step the chunks still to come are those of the rest of the layout (`Scan.Reads`), so the segments
read so far and those still to come are always the same altogether. With this, a layout can also be cut in
two in front of any percent sign, and each half compiled on its own (`compile_chunkwise`). -/

namespace EventLog

namespace Text

/-- The position of the first `c` at position `i` or later, if there is one. -/
def positionFrom? (c : Char) (t : Text) (i : Nat) : Option Nat :=
  ((t.drop i).idxOf? c).map (i + ·)

/-- The part of a text from one position up to another, or up to its end. -/
def slice (t : Text) (i : Nat) : Option Nat → Text
  | some j => (t.take j).drop i
  | none => t.drop i

theorem idxOf?_append_cons (c : Char) (t u : Text) (h : c ∉ t) :
    (t ++ c :: u).idxOf? c = some t.length := by
  induction t with
  | nil => simp [List.idxOf?_cons]
  | cons d rest ih =>
      have hd : d ≠ c := fun e => h (by simp [e])
      simp [List.idxOf?_cons, hd, ih fun m => h (List.mem_cons_of_mem _ m)]

end Text

namespace Layout

/-! ## Divisions -/

/-- Whether the text is a percent sign with text behind it that holds no other. -/
def IsChunk (chunk : Text) : Prop :=
  ∃ body : Text, chunk = '%' :: body ∧ '%' ∉ body

/-- A layout is divided into a text without a percent sign and chunks. -/
structure IsDivision (layout first : Text) (rest : List Text) : Prop where
  whole : first ++ rest.flatten = layout
  first : '%' ∉ first
  chunk : ∀ c ∈ rest, IsChunk c

theorem isDivision_chunks (layout : Text) :
    IsDivision layout (chunks layout).1 (chunks layout).2 := by
  refine ⟨chunks_flatten layout, Text.not_mem_cut_fst '%' layout, fun c hc => ?_⟩
  obtain ⟨body, hbody, rfl⟩ := List.mem_map.1 hc
  exact ⟨body, rfl, Text.not_mem_of_mem_cut_snd '%' layout body hbody⟩

theorem exists_bodies {rest : List Text} (h : ∀ c ∈ rest, IsChunk c) :
    ∃ bodies : List Text, rest = bodies.map ('%' :: ·) ∧ ∀ body ∈ bodies, '%' ∉ body := by
  induction rest with
  | nil => exact ⟨[], rfl, by simp⟩
  | cons c rest ih =>
      obtain ⟨body, rfl, hbody⟩ := h c (by simp)
      obtain ⟨bodies, rfl, hbodies⟩ := ih fun d hd => h d (List.mem_cons_of_mem _ hd)
      exact ⟨body :: bodies, rfl, List.forall_mem_cons.2 ⟨hbody, hbodies⟩⟩

/-- There is just one division of a layout. -/
theorem isDivision_iff {layout first : Text} {rest : List Text} :
    IsDivision layout first rest ↔ chunks layout = (first, rest) := by
  constructor
  · rintro ⟨rfl, hfirst, hrest⟩
    obtain ⟨bodies, rfl, hbodies⟩ := exists_bodies hrest
    have hmend : first ++ (bodies.map ('%' :: ·)).flatten = Text.mend '%' (first, bodies) := by
      rw [Text.mend, List.flatMap_def]
    rw [chunks, hmend, Text.cut_mend '%' first bodies hfirst hbodies]
  · intro h
    have hd := isDivision_chunks layout
    rw [h] at hd
    exact hd

/-- The division of a layout from those of the parts before a percent sign and behind a text that follows
    it. -/
theorem IsDivision.append {before first name t front : Text} {rest others : List Text}
    (hb : IsDivision before first rest) (hn : '%' ∉ name) (ht : IsDivision t front others) :
    IsDivision (before ++ '%' :: (name ++ t)) first (rest ++ ('%' :: (name ++ front)) :: others) := by
  refine ⟨?_, hb.first, fun c hc => ?_⟩
  · rw [← hb.whole, ← ht.whole]
    simp
  · rcases List.mem_append.1 hc with hc | hc
    · exact hb.chunk c hc
    · rcases List.mem_cons.1 hc with rfl | hc
      · exact ⟨name ++ front, rfl, by simp [hn, ht.first]⟩
      · exact ht.chunk c hc

theorem count_flatten_chunks {rest : List Text} (h : ∀ c ∈ rest, IsChunk c) :
    rest.flatten.count '%' = rest.length := by
  induction rest with
  | nil => rfl
  | cons c rest ih =>
      obtain ⟨body, rfl, hbody⟩ := h c (by simp)
      have hcount : ('%' :: body).count '%' = 1 := by
        rw [List.count_cons_self, List.count_eq_zero.2 hbody]
      rw [List.flatten_cons, List.count_append, hcount, ih fun d hd => h d (List.mem_cons_of_mem _ hd),
        List.length_cons, Nat.add_comm]

/-- There are as many chunks as percent signs. -/
theorem IsDivision.length {layout first : Text} {rest : List Text} (h : IsDivision layout first rest) :
    rest.length = layout.count '%' := by
  rw [← h.whole, List.count_append, List.count_eq_zero.2 h.first, count_flatten_chunks h.chunk,
    Nat.zero_add]

/-- The first text starts like the layout, unless this starts with a percent sign. -/
theorem IsDivision.head? {layout first : Text} {rest : List Text} (h : IsDivision layout first rest) :
    first.head? = layout.head?.filter (· ≠ '%') := by
  rw [← h.whole]
  cases hf : first with
  | nil =>
      cases hr : rest with
      | nil => rfl
      | cons c others =>
          obtain ⟨body, rfl, -⟩ := h.chunk c (by simp [hr])
          rfl
  | cons c t =>
      have hc : c ≠ '%' := fun e => h.first (by simp [hf, e])
      simp [Option.filter, hc]

theorem IsDivision.first_eq_nil_iff {layout first : Text} {rest : List Text}
    (h : IsDivision layout first rest) :
    first = [] ↔ layout.head?.any (· ≠ '%') = false := by
  rw [← List.head?_eq_none_iff, h.head?]
  cases layout.head? <;> simp

theorem IsDivision.startsWithLetter {layout first : Text} {rest : List Text}
    (h : IsDivision layout first rest) : startsWithLetter first = startsWithLetter layout := by
  have hp : Text.isLetter '%' = false := by decide
  rw [Layout.startsWithLetter, Layout.startsWithLetter, h.head?]
  cases hl : layout.head? with
  | none => rfl
  | some c => by_cases hc : c = '%' <;> simp [hc, hp]

/-! ## Reading from left to right -/

/-- A state of the reading: the position of the percent sign that comes next, if there is one, and the
    segments read so far. -/
structure Scan where
  next : Option Nat
  segments : List Segment

namespace Scan

/-- The state in front of the first percent sign. -/
def start (layout : Text) : Scan :=
  let next := Text.positionFrom? '%' layout 0
  let first := Text.slice layout 0 next
  ⟨next, if first.isEmpty then [] else [.literal first]⟩

/-- Reads one chunk, unless there is none left. -/
def step (layout : Text) (s : Scan) : Scan :=
  match s.next with
  | none => s
  | some i =>
      let next := Text.positionFrom? '%' layout (i + 1)
      ⟨next, s.segments ++ [segment (Text.slice layout i next)]⟩

/-- Reads so many chunks. -/
def steps (layout : Text) : Nat → Scan → Scan
  | 0, s => s
  | n + 1, s => steps layout n (step layout s)

/-- Where the first of these chunks starts behind the text `read`. -/
def startOf (read : Text) (rest : List Text) : Option Nat :=
  if rest = [] then none else some read.length

theorem startOf_eq_none_iff (read : Text) (rest : List Text) : startOf read rest = none ↔ rest = [] := by
  cases rest <;> simp [startOf]

/-- Whether the text `read` is read and the chunks `rest` are still to come. -/
structure Reads (layout : Text) (s : Scan) (read : Text) (rest : List Text) : Prop where
  whole : read ++ rest.flatten = layout
  chunk : ∀ c ∈ rest, IsChunk c
  next : s.next = startOf read rest
  segments : s.segments ++ rest.map segment = compile layout

/-- Looking for the next percent sign finds the start of the next chunk. -/
theorem positionFrom?_chunks (read t : Text) (ht : '%' ∉ t) {rest : List Text}
    (hrest : ∀ c ∈ rest, IsChunk c) :
    Text.positionFrom? '%' (read ++ (t ++ rest.flatten)) read.length = startOf (read ++ t) rest := by
  rw [Text.positionFrom?, List.drop_left]
  cases rest with
  | nil =>
      have hnone : (t ++ [].flatten).idxOf? '%' = none := List.idxOf?_eq_none_iff.2 (by simpa using ht)
      rw [hnone]
      rfl
  | cons c rest =>
      obtain ⟨body, rfl, -⟩ := hrest c (by simp)
      rw [List.flatten_cons, List.cons_append, Text.idxOf?_append_cons '%' t _ ht]
      simp [startOf]

/-- What lies between the starts of two chunks is the first of them. -/
theorem slice_chunk (read c : Text) (rest : List Text) :
    Text.slice (read ++ (c ++ rest.flatten)) read.length (startOf (read ++ c) rest) = c := by
  cases rest with
  | nil => simp [startOf, Text.slice]
  | cons d rest =>
      rw [startOf, if_neg (List.cons_ne_nil d rest), Text.slice, ← List.append_assoc, List.take_left,
        List.drop_left]

theorem reads_start {layout first : Text} {rest : List Text} (h : IsDivision layout first rest) :
    Reads layout (start layout) first rest := by
  have hnext : Text.positionFrom? '%' layout 0 = startOf first rest := by
    rw [← h.whole]
    exact positionFrom?_chunks [] first h.first h.chunk
  have hfirst : Text.slice layout 0 (startOf first rest) = first := by
    rw [← h.whole]
    exact slice_chunk [] first rest
  refine ⟨h.whole, h.chunk, hnext, ?_⟩
  rw [compile, isDivision_iff.1 h, start, hnext, hfirst]

/-- A step reads the next chunk. -/
theorem Reads.step {layout : Text} {s : Scan} {read c : Text} {rest : List Text}
    (h : Reads layout s read (c :: rest)) : Reads layout (s.step layout) (read ++ c) rest := by
  obtain ⟨body, rfl, hbody⟩ := h.chunk c (by simp)
  have hrest : ∀ d ∈ rest, IsChunk d := fun d hd => h.chunk d (List.mem_cons_of_mem _ hd)
  have hwhole : read ++ ('%' :: body ++ rest.flatten) = layout := h.whole
  have hnext : Text.positionFrom? '%' layout (read.length + 1) = startOf (read ++ '%' :: body) rest := by
    have hp := positionFrom?_chunks (read ++ ['%']) body hbody hrest
    simpa [← hwhole] using hp
  have hslice : Text.slice layout read.length (startOf (read ++ '%' :: body) rest) = '%' :: body := by
    rw [← hwhole]
    exact slice_chunk read ('%' :: body) rest
  have hs : s.step layout
      = ⟨startOf (read ++ '%' :: body) rest, s.segments ++ [segment ('%' :: body)]⟩ := by
    have hn : s.next = some read.length := h.next
    rw [Scan.step, hn]
    simp only [hnext, hslice]
  rw [hs]
  refine ⟨by rw [← hwhole, List.append_assoc], hrest, rfl, ?_⟩
  rw [← h.segments]
  simp

/-- Where no chunk is left, a step changes nothing. -/
theorem Reads.step_of_nil {layout : Text} {s : Scan} {read : Text} (h : Reads layout s read []) :
    s.step layout = s := by
  have hn : s.next = none := h.next
  rw [Scan.step, hn]

/-- So many steps read so many chunks, as long as there are any. -/
theorem Reads.steps {layout : Text} {s : Scan} {read : Text} {rest : List Text}
    (h : Reads layout s read rest) (n : Nat) :
    Reads layout (s.steps layout n) (read ++ (rest.take n).flatten) (rest.drop n) := by
  induction n generalizing s read rest with
  | zero => simpa [Scan.steps] using h
  | succ n ih =>
      cases rest with
      | nil =>
          have hrest := ih h
          rw [Scan.steps, h.step_of_nil]
          simpa using hrest
      | cons c rest => simpa [Scan.steps] using ih h.step

end Scan

/-! ## Segments and chunks -/

/-- Layouts are compiled chunk by chunk:

    1. A layout can be cut in two in front of a percent sign, wherever that is, and each part compiled on its
       own.
    2. There is just one division of a layout into a text without a percent sign and chunks. Unless it is
       empty the first text is a segment, and each chunk is one, in order.
    3. So there are as many segments as percent signs, and one more if the layout starts with another
       character.
    4. Reading a layout from one percent sign to the next ends after as many steps as there are percent signs
       and not before, with these segments. -/
theorem compile_chunkwise (layout : Text) :
    (∀ other, compile (layout ++ '%' :: other) = compile layout ++ compile ('%' :: other))
      ∧ (∃ first rest,
        (∀ first' rest', IsDivision layout first' rest' ↔ first' = first ∧ rest' = rest)
          ∧ compile layout = (if first = [] then [] else [.literal first]) ++ rest.map segment)
      ∧ (compile layout).length
        = layout.count '%' + (if layout.head?.any (· ≠ '%') then 1 else 0)
      ∧ ∀ n, let s := Scan.steps layout n (Scan.start layout)
        (s.next = none ↔ layout.count '%' ≤ n) ∧ (s.next = none → s.segments = compile layout) := by
  have hd := isDivision_chunks layout
  generalize hchunks : chunks layout = division at hd
  obtain ⟨first, rest⟩ := division
  have hcompile : compile layout = (if first = [] then [] else [.literal first]) ++ rest.map segment := by
    rw [compile, hchunks]
    simp only [List.isEmpty_iff]
  refine ⟨compile_append layout, ⟨first, rest, fun first' rest' => ?_, hcompile⟩, ?_, fun n => ?_⟩
  · rw [isDivision_iff, hchunks, Prod.mk.injEq, eq_comm (a := first), eq_comm (a := rest)]
  · rw [hcompile, List.length_append, List.length_map, hd.length, Nat.add_comm]
    by_cases hf : first = []
    · rw [if_pos hf, hd.first_eq_nil_iff.1 hf]
      rfl
    · rw [if_neg hf, if_pos (eq_true_of_ne_false (mt hd.first_eq_nil_iff.2 hf))]
      rfl
  · have hr := (Scan.reads_start hd).steps n
    have hend : (Scan.steps layout n (Scan.start layout)).next = none ↔ rest.drop n = [] := by
      rw [hr.next, Scan.startOf_eq_none_iff]
    refine ⟨by rw [hend, List.drop_eq_nil_iff, hd.length], fun hn => ?_⟩
    have hsegments := hr.segments
    rw [hend.1 hn, List.map_nil, List.append_nil] at hsegments
    exact hsegments

/-- A percent sign in front of another one, or at the end, is a chunk of its own. -/
example : compile "50%%m%"
    = [.literal "50", .literal "%", .directive (some .message) [] [], .literal "%"] := by
  decide

end Layout
end EventLog
