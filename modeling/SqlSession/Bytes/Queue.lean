import SqlSession.Bytes
/-!
# Queues of bytes

Bytes are appended behind a queue and taken from its front.  The bytes at the back are kept in
reverse until they come to the front, so both take time for the bytes they move only, however many
bytes wait.

* `toList` gives the bytes of a queue in order.
* `append` and `split` act on them as their names say (`toList_append`, `fst_split`,
  `toList_snd_split`).
-/

namespace SqlSession

/-- A queue of bytes. -/
structure ByteQueue where
  /-- The first bytes. -/
  front : Bytes := []
  /-- The bytes behind them, the last one first. -/
  back : Bytes := []
  /-- The number of bytes. -/
  size : Nat := front.length + back.length
  size_eq : size = front.length + back.length := by rfl
  deriving DecidableEq, Repr

namespace ByteQueue

/-- The bytes of a queue, the first one first. -/
def toList (q : ByteQueue) : Bytes := q.front ++ q.back.reverse

/-- The queue of a list of bytes. -/
def ofList (bytes : Bytes) : ByteQueue := { front := bytes }

/-- Appends bytes. -/
def append (q : ByteQueue) (bytes : Bytes) : ByteQueue :=
  { front := q.front
    back := bytes.reverseAux q.back
    size := q.size + bytes.length
    size_eq := by simp [q.size_eq, List.reverseAux_eq]; omega }

/-- Takes up to `n` bytes; the bytes at the back come to the front when the front has too few. -/
def split (q : ByteQueue) (n : Nat) : Bytes × ByteQueue :=
  let taken := q.front.take n
  if h : taken.length = n then
    (taken,
      { front := q.front.drop n
        back := q.back
        size := q.size - n
        size_eq := by grind [q.size_eq] })
  else
    let all := q.toList
    (all.take n, ofList (all.drop n))

/-! ## Lemmas -/

@[simp] theorem toList_ofList (bytes : Bytes) : (ofList bytes).toList = bytes := by
  simp [toList, ofList]

@[simp] theorem toList_empty : ({} : ByteQueue).toList = [] := rfl

@[simp] theorem length_toList (q : ByteQueue) : q.toList.length = q.size := by
  simp [toList, q.size_eq]

@[simp] theorem toList_append (q : ByteQueue) (bytes : Bytes) :
    (q.append bytes).toList = q.toList ++ bytes := by
  simp [toList, append, List.reverseAux_eq]

theorem le_length_front {q : ByteQueue} {n : Nat} (h : (q.front.take n).length = n) :
    n ≤ q.front.length := by
  rw [List.length_take] at h
  omega

@[simp] theorem fst_split (q : ByteQueue) (n : Nat) : (q.split n).1 = q.toList.take n := by
  by_cases h : (q.front.take n).length = n
  · simp only [split, h, dite_true, toList]
    exact (List.take_append_of_le_length (le_length_front h)).symm
  · simp only [split, h, dite_false]

@[simp] theorem toList_snd_split (q : ByteQueue) (n : Nat) :
    (q.split n).2.toList = q.toList.drop n := by
  by_cases h : (q.front.take n).length = n
  · simp only [split, h, dite_true, toList]
    exact (List.drop_append_of_le_length (le_length_front h)).symm
  · simp only [split, h, dite_false, toList_ofList]

end ByteQueue

end SqlSession
