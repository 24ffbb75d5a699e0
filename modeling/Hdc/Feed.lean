import Mathlib.Data.List.Basic

/- Byte streams as a reader meets them, with no program attached. A `Chunks`
   is what is still to arrive, cut into the non-empty pieces that single reads
   return; `read n` is one read into a buffer of `n` elements, and `readExact`
   the loop that reads until the buffer is full or a read returns nothing.

   `readExact_of_le` and `readExact_of_lt` say that the cuts do not matter: the
   loop returns the first `n` elements of the stream and leaves the rest, or
   fails, depending only on how much the stream holds. `Drains` is the
   repeated call of a decoder until it fails. A stream of encodings may end anywhere:
   `wholeIn` is what is complete in it, and `Drains.of_take` says that a decoder
   returns just that. -/
namespace Feed

/-- A finite stream, cut into the pieces its reads return. -/
structure Chunks (β : Type) where
  pieces : List (List β)
  nonempty : ∀ c ∈ pieces, c ≠ []

namespace Chunks
variable {β : Type}

/-- The content of the stream. -/
def bytes (s : Chunks β) : List β := s.pieces.flatten

theorem nonempty_tail {c : List β} {cs : List (List β)} (h : ∀ d ∈ c :: cs, d ≠ []) :
    ∀ d ∈ cs, d ≠ [] :=
  fun d hd => h d (List.mem_cons_of_mem c hd)

/-- One read into a buffer of `n`: nothing at the end of the stream, else as
much of the next piece as fits. -/
def read (n : Nat) : Chunks β → List β × Chunks β
  | ⟨[], h⟩ => ([], ⟨[], h⟩)
  | ⟨c :: cs, h⟩ =>
    if hn : n < c.length then
      (c.take n, ⟨c.drop n :: cs, by
        intro d hd
        rcases List.mem_cons.mp hd with rfl | hd
        · simpa [List.drop_eq_nil_iff] using hn
        · exact nonempty_tail h d hd⟩)
    else (c, ⟨cs, nonempty_tail h⟩)

theorem read_append (n : Nat) (s : Chunks β) : (s.read n).1 ++ (s.read n).2.bytes = s.bytes := by
  obtain ⟨pieces, h⟩ := s
  cases pieces with
  | nil => rfl
  | cons c cs =>
    simp only [read, bytes]
    split
    · simp [← List.append_assoc]
    · rfl

theorem read_length_le (n : Nat) (s : Chunks β) : (s.read n).1.length ≤ n := by
  obtain ⟨pieces, h⟩ := s
  cases pieces with
  | nil => exact Nat.zero_le _
  | cons c cs =>
    simp only [read]
    split
    · exact List.length_take_le ..
    · dsimp only; omega

/-- A read into a real buffer returns nothing only at the end of the stream. -/
theorem read_eq_nil {n : Nat} (hn : 0 < n) {s : Chunks β} (h : (s.read n).1 = []) : s.bytes = [] := by
  obtain ⟨pieces, hs⟩ := s
  cases pieces with
  | nil => rfl
  | cons c cs =>
    have hc := hs c List.mem_cons_self
    simp only [read] at h
    split at h
    · rw [List.take_eq_nil_iff] at h
      rcases h with h | h
      · omega
      · exact absurd h hc
    · exact absurd h hc

/-- The loop `while index < expected { read(&mut data[index..]) }`, `need`
being what the buffer still lacks. A read that returns something shortens it,
so `need` rounds are enough. -/
def readLoop : Nat → Nat → Chunks β → Option (List β × Chunks β)
  | _, 0, s => some ([], s)
  | 0, _+1, _ => none
  | rounds+1, need+1, s =>
    match (s.read (need+1)) with
    | ([], _) => none
    | (b :: bs, s') =>
      (readLoop rounds (need + 1 - (b :: bs).length) s').map fun p => (b :: bs ++ p.1, p.2)

def readExact (n : Nat) (s : Chunks β) : Option (List β × Chunks β) := readLoop n n s

theorem readLoop_of_le : ∀ (rounds need : Nat) (s : Chunks β), need ≤ rounds →
    need ≤ s.bytes.length →
    ∃ s', readLoop rounds need s = some (s.bytes.take need, s') ∧ s'.bytes = s.bytes.drop need
  | rounds, 0, s, _, _ => ⟨s, by cases rounds <;> simp [readLoop], rfl⟩
  | 0, _+1, _, h, _ => absurd h (by simp)
  | rounds+1, need+1, s, hr, hle => by
    have happ := read_append (need+1) s
    have hlen := read_length_le (need+1) s
    rcases hread : s.read (need+1) with ⟨got, s₁⟩
    rw [hread] at happ hlen
    cases got with
    | nil =>
      have := read_eq_nil (Nat.succ_pos need) (s := s) (by rw [hread])
      rw [this] at hle
      simp at hle
    | cons b bs =>
      simp only at happ hlen
      have hrest : need + 1 - (b :: bs).length ≤ s₁.bytes.length := by
        rw [← happ, List.length_append] at hle
        omega
      obtain ⟨s', hloop, hbytes⟩ := readLoop_of_le rounds (need + 1 - (b :: bs).length) s₁
        (by simp only [List.length_cons]; omega) hrest
      refine ⟨s', ?_, ?_⟩
      · simp only [readLoop, hread, hloop, Option.map_some]
        rw [← happ, List.take_append, List.take_of_length_le hlen]
      · rw [hbytes, ← happ, List.drop_append, List.drop_of_length_le hlen, List.nil_append]

theorem readLoop_of_lt : ∀ (rounds need : Nat) (s : Chunks β), s.bytes.length < need →
    readLoop rounds need s = none
  | _, 0, _, h => absurd h (by simp)
  | 0, _+1, _, _ => rfl
  | rounds+1, need+1, s, hlt => by
    have happ := read_append (need+1) s
    rcases hread : s.read (need+1) with ⟨got, s₁⟩
    rw [hread] at happ
    cases got with
    | nil => simp [readLoop, hread]
    | cons b bs =>
      simp only at happ
      have : s₁.bytes.length < need + 1 - (b :: bs).length := by
        rw [← happ, List.length_append] at hlt
        omega
      simp only [readLoop, hread, readLoop_of_lt rounds _ s₁ this, Option.map_none]

/-- A stream that holds `n` elements gives up its first `n`, however it is cut. -/
theorem readExact_of_le {n : Nat} {s : Chunks β} (h : n ≤ s.bytes.length) :
    ∃ s', readExact n s = some (s.bytes.take n, s') ∧ s'.bytes = s.bytes.drop n :=
  readLoop_of_le n n s (Nat.le_refl n) h

theorem readExact_of_lt {n : Nat} {s : Chunks β} (h : s.bytes.length < n) : readExact n s = none :=
  readLoop_of_lt n n s h

/-- The same, for a stream given as a front and the rest. -/
theorem readExact_append {s : Chunks β} {front rest : List β} (h : s.bytes = front ++ rest) :
    ∃ s', readExact front.length s = some (front, s') ∧ s'.bytes = rest := by
  obtain ⟨s', hr, hs⟩ := readExact_of_le (n := front.length) (s := s) (by rw [h]; simp)
  rw [h, List.take_left] at hr
  rw [h, List.drop_left] at hs
  exact ⟨s', hr, hs⟩

theorem readExact_eq_some {n : Nat} {s s' : Chunks β} {front : List β}
    (h : readExact n s = some (front, s')) :
    n ≤ s.bytes.length ∧ front = s.bytes.take n ∧ s'.bytes = s.bytes.drop n := by
  rcases Nat.lt_or_ge s.bytes.length n with hlt | hle
  · rw [readExact_of_lt hlt] at h
    cases h
  · obtain ⟨t, hread, ht⟩ := readExact_of_le hle
    rw [h] at hread
    cases hread
    exact ⟨hle, rfl, ht⟩

end Chunks

/-- A stream of encodings is no shorter than the list of what they encode. -/
theorem length_le_flatMap {β α : Type} {encode : α → List β} (hpos : ∀ a, 0 < (encode a).length)
    (items : List α) : items.length ≤ (items.flatMap encode).length := by
  induction items with
  | nil => exact Nat.le_refl 0
  | cons a items ih =>
    have := hpos a
    rw [List.flatMap_cons, List.length_append, List.length_cons]
    omega

/-- Calling `decode` on the stream again and again returns `out` in order and
then fails with `e`. -/
inductive Drains {β α ε : Type} (decode : Chunks β → Except ε (α × Chunks β)) :
    Chunks β → List α → ε → Prop
  | stop {s : Chunks β} {e : ε} : decode s = .error e → Drains decode s [] e
  | next {s s' : Chunks β} {a : α} {out : List α} {e : ε} :
      decode s = .ok (a, s') → Drains decode s' out e → Drains decode s (a :: out) e

/-- Items whose encodings a decoder takes one at a time off the front of any
stream are all returned, up to a tail on which it fails. -/
theorem Drains.of_encodings {β α ε : Type} {decode : Chunks β → Except ε (α × Chunks β)}
    {encode : α → List β} {tail : List β} {e : ε} {items : List α}
    (hnext : ∀ a ∈ items, ∀ (s : Chunks β) (rest : List β), s.bytes = encode a ++ rest →
      ∃ s', decode s = .ok (a, s') ∧ s'.bytes = rest)
    (hstop : ∀ s : Chunks β, s.bytes = tail → decode s = .error e) :
    ∀ s : Chunks β, s.bytes = (items.map encode).flatten ++ tail → Drains decode s items e := by
  induction items with
  | nil => exact fun s hs => .stop (hstop s hs)
  | cons a items ih =>
    intro s hs
    rw [List.map_cons, List.flatten_cons, List.append_assoc] at hs
    obtain ⟨s', hd, hs'⟩ := hnext a List.mem_cons_self s _ hs
    exact .next hd (ih (fun b hb => hnext b (List.mem_cons_of_mem a hb)) s' hs')

/-- Each item takes something off the stream. -/
theorem Drains.length_le {β α ε : Type} {decode : Chunks β → Except ε (α × Chunks β)}
    (hshort : ∀ {s a s'}, decode s = .ok (a, s') → s'.bytes.length < s.bytes.length)
    {s : Chunks β} {out : List α} {e : ε} (h : Drains decode s out e) :
    out.length ≤ s.bytes.length := by
  induction h with
  | stop _ => exact Nat.zero_le _
  | next hd _ ih => exact Nat.lt_of_le_of_lt ih (hshort hd)

/-! Streams of encodings that end anywhere. -/

section
variable {β α ε : Type} {encode : α → List β}

/-- The items whose encodings lie in the first `n` elements of the stream. -/
def wholeIn (encode : α → List β) : Nat → List α → List α
  | _, [] => []
  | n, a :: items =>
    if (encode a).length ≤ n then a :: wholeIn encode (n - (encode a).length) items else []

theorem mem_of_mem_wholeIn {a : α} : ∀ {n : Nat} {items : List α}, a ∈ wholeIn encode n items →
    a ∈ items
  | _, [], h => by cases h
  | n, b :: items, h => by
    rw [wholeIn] at h
    split at h
    · rcases List.mem_cons.mp h with rfl | h
      · exact List.mem_cons_self
      · exact List.mem_cons_of_mem _ (mem_of_mem_wholeIn h)
    · cases h

/-- All of them, if nothing is cut. -/
theorem wholeIn_length (encode : α → List β) (items : List α) :
    wholeIn encode (items.map encode).flatten.length items = items := by
  induction items with
  | nil => rfl
  | cons a items ih =>
    rw [List.map_cons, List.flatten_cons, List.length_append, wholeIn,
      if_pos (Nat.le_add_right _ _), Nat.add_sub_cancel_left, ih]

/-- Behind them, nothing or the front of an encoding that is cut. -/
theorem take_encodings (encode : α → List β) : ∀ (n : Nat) (items : List α), ∃ tail,
    (items.map encode).flatten.take n = ((wholeIn encode n items).map encode).flatten ++ tail ∧
    (tail = [] ∨ ∃ a ∈ items, ∃ lost, lost ≠ [] ∧ tail ++ lost = encode a)
  | n, [] => ⟨[], by simp [wholeIn], .inl rfl⟩
  | n, a :: items => by
    rw [wholeIn, List.map_cons, List.flatten_cons]
    split
    · rename_i hle
      obtain ⟨tail, htake, htail⟩ := take_encodings encode (n - (encode a).length) items
      refine ⟨tail, ?_, htail.imp_right fun ⟨b, hb, h⟩ => ⟨b, List.mem_cons_of_mem a hb, h⟩⟩
      rw [List.take_append, List.take_of_length_le hle, htake, List.map_cons, List.flatten_cons,
        List.append_assoc]
    · rename_i hgt
      have hlt := Nat.lt_of_not_le hgt
      refine ⟨(encode a).take n, ?_, .inr ⟨a, List.mem_cons_self, (encode a).drop n, ?_, ?_⟩⟩
      · rw [List.take_append_of_le_length (Nat.le_of_lt hlt)]
        rfl
      · rw [Ne, List.drop_eq_nil_iff]
        exact hgt
      · exact List.take_append_drop n (encode a)

/-- A decoder that takes encodings off the front, and fails at the end and at an encoding that is
cut, returns what is complete. -/
theorem Drains.of_take {decode : Chunks β → Except ε (α × Chunks β)} {e : ε} {items : List α}
    (hnext : ∀ a ∈ items, ∀ (s : Chunks β) (rest : List β), s.bytes = encode a ++ rest →
      ∃ s', decode s = .ok (a, s') ∧ s'.bytes = rest)
    (hend : ∀ s : Chunks β, s.bytes = [] → decode s = .error e)
    (hcut : ∀ a ∈ items, ∀ (s : Chunks β) (lost : List β), lost ≠ [] → s.bytes ++ lost = encode a →
      decode s = .error e)
    (n : Nat) {s : Chunks β} (hs : s.bytes = (items.map encode).flatten.take n) :
    Drains decode s (wholeIn encode n items) e := by
  obtain ⟨tail, htake, htail⟩ := take_encodings encode n items
  refine Drains.of_encodings (fun a ha => hnext a (mem_of_mem_wholeIn ha)) (fun t ht => ?_) s
    (hs.trans htake)
  rcases htail with rfl | ⟨a, ha, lost, hlost, heq⟩
  · exact hend t ht
  · exact hcut a ha t lost hlost (by rw [ht, heq])

end

end Feed
