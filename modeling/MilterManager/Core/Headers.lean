import MilterManager.Base.Occurrence

/-!
# Message headers

`MilterHeader` and the operations of `MilterHeaders`, from `milter/core/milter-headers.c`. A header
list is the `GList` behind the object; a found header, a pointer in the source, is its position.
-/

namespace MilterManager.Core

open MilterManager.Base

/-- The bytes of a C string or of a chunk. -/
abbrev Bytes := List UInt8

/-- `MilterHeader`; the value of a header can be `NULL`. -/
structure Header where
  name : Bytes
  value : Option Bytes
deriving DecidableEq, Repr

/-- The `header_list` of a `MilterHeaders`. -/
abbrev Headers := List Header

/-- `g_ascii_tolower`. -/
def asciiToLower (c : UInt8) : UInt8 :=
  if 65 ≤ c ∧ c ≤ 90 then c + 32 else c

/-- `g_ascii_strcasecmp (a, b) == 0`. -/
def asciiCaseEqual (a b : Bytes) : Bool :=
  a.map asciiToLower == b.map asciiToLower

namespace Headers

/-- `milter_headers_find`, `milter/core/milter-headers.c:168`. -/
def find (headers : Headers) (header : Header) : Option Header :=
  List.find? (· == header) headers

/-- `milter_headers_lookup_by_name`, `milter/core/milter-headers.c:192`. -/
def lookupByName (headers : Headers) (name : Bytes) : Option Header :=
  List.find? (·.name == name) headers

/-- `milter_headers_get_nth_header`, `milter/core/milter-headers.c:210`; counted from 1. -/
def getNthHeader (headers : Headers) (index : Nat) : Option Header :=
  if index < 1 then none else headers[index - 1]?

private def indexInSameHeaderNameFrom (target : Header) (foundCount : Int) : Headers → Int
  | [] => -1
  | header :: rest =>
      if header.name ≠ target.name then indexInSameHeaderNameFrom target foundCount rest
      else if header.value = target.value then foundCount + 1
      else indexInSameHeaderNameFrom target (foundCount + 1) rest

/-- `milter_headers_index_in_same_header_name`, `milter/core/milter-headers.c:229`: the number,
among the headers of that name, of the first header equal to `target`. -/
def indexInSameHeaderName (headers : Headers) (target : Header) : Int :=
  indexInSameHeaderNameFrom target 0 headers

/-- `milter_headers_remove`, `milter/core/milter-headers.c:252`. -/
def remove (headers : Headers) (header : Header) : Headers :=
  List.erase headers header

private def insertBeforeSameName (added : Header) : Headers → Option Headers
  | [] => none
  | header :: rest =>
      if asciiCaseEqual header.name added.name then some (added :: header :: rest)
      else (insertBeforeSameName added rest).map (header :: ·)

/-- `milter_headers_append_header`, `milter/core/milter-headers.c:299`. -/
def appendHeader (headers : Headers) (name : Bytes) (value : Option Bytes) : Headers :=
  headers ++ [⟨name, value⟩]

/-- `milter_headers_add_header`, `milter/core/milter-headers.c:269`. -/
def addHeader (headers : Headers) (name : Bytes) (value : Option Bytes) : Headers :=
  (insertBeforeSameName ⟨name, value⟩ headers).getD (appendHeader headers name value)

/-- `milter_headers_insert_header`, `milter/core/milter-headers.c:313`. -/
def insertHeader (headers : Headers) (position : Nat) (name : Bytes) (value : Option Bytes) :
    Headers :=
  insertAt position ⟨name, value⟩ headers

/-- `milter_headers_lookup_by_name_with_index`, `milter/core/milter-headers.c:330`. -/
def lookupByNameWithIndex (headers : Headers) (name : Bytes) (index : Nat) : Option Nat :=
  findNth (·.name == name) headers index

/-- `milter_headers_delete_header`, `milter/core/milter-headers.c:376`. -/
def deleteHeader (headers : Headers) (name : Bytes) (index : Nat) : Headers :=
  match lookupByNameWithIndex headers name index with
  | none => headers
  | some i => headers.eraseIdx i

/-- `milter_headers_change_header`, `milter/core/milter-headers.c:355`. -/
def changeHeader (headers : Headers) (name : Bytes) (index : Nat) (value : Option Bytes) :
    Headers :=
  match value with
  | none => deleteHeader headers name index
  | some value =>
      match lookupByNameWithIndex headers name index with
      | some i => headers.modify i fun header => { header with value := some value }
      | none => addHeader headers name (some value)

private theorem perm_of_insertBeforeSameName (added : Header) {headers inserted : Headers}
    (h : insertBeforeSameName added headers = some inserted) :
    inserted.Perm (headers ++ [added]) := by
  induction headers generalizing inserted with
  | nil => cases h
  | cons header rest ih =>
      rw [insertBeforeSameName] at h
      split at h
      · rw [← Option.some.inj h]
        exact (List.perm_append_singleton added (header :: rest)).symm
      · rcases Option.map_eq_some_iff.mp h with ⟨tail, htail, rfl⟩
        exact (ih htail).cons header

/-- A header that is added is there beside the others. -/
theorem perm_addHeader (headers : Headers) (name : Bytes) (value : Option Bytes) :
    (headers.addHeader name value).Perm (headers ++ [⟨name, value⟩]) := by
  rw [addHeader]
  cases h : insertBeforeSameName ⟨name, value⟩ headers with
  | none => exact List.Perm.refl _
  | some inserted => exact perm_of_insertBeforeSameName _ h

/-- A header of the list is found. -/
theorem find_of_mem (headers : Headers) (header : Header) (h : header ∈ headers) :
    find headers header = some header := by
  obtain ⟨found, hfound⟩ : ∃ found, find headers header = some found := by
    rw [← Option.isSome_iff_exists, find, List.find?_isSome]
    exact ⟨header, h, by simp⟩
  have hequal : found = header := by simpa using List.find?_some hfound
  rw [hfound, hequal]

/-- A header that is not in the list is not found. -/
theorem find_of_not_mem (headers : Headers) (header : Header) (h : header ∉ headers) :
    find headers header = none := by
  rw [find, List.find?_eq_none]
  intro other hmem heq
  exact h (by simpa using (beq_iff_eq.mp heq ▸ hmem))

/-- Looking a name up finds its first header. -/
theorem lookupByName_append_cons (before : Headers) (header : Header) (after : Headers)
    (h : ∀ other ∈ before, other.name ≠ header.name) :
    lookupByName (before ++ header :: after) header.name = some header := by
  rw [lookupByName, List.find?_append, List.find?_eq_none.mpr fun other hmem => by
    simpa using h other hmem]
  simp

/-- Looking up a name that no header has finds nothing. -/
theorem lookupByName_eq_none (headers : Headers) (name : Bytes)
    (h : ∀ other ∈ headers, other.name ≠ name) : lookupByName headers name = none := by
  rw [lookupByName, List.find?_eq_none]
  intro other hmem
  simpa using h other hmem

/-- Deleting reaches the header that has `index - 1` headers of its name before it. -/
theorem deleteHeader_append_cons (before : Headers) (header : Header) (after : Headers) :
    deleteHeader (before ++ header :: after) header.name
      (before.countP (·.name == header.name) + 1) = before ++ after := by
  simp only [deleteHeader, lookupByNameWithIndex]
  rw [findNth_append_cons (fun h : Header => h.name == header.name) before header after (by simp)]
  simp [List.eraseIdx_append_of_length_le]

/-- Changing reaches the header that has `index - 1` headers of its name before it. -/
theorem changeHeader_append_cons (before : Headers) (header : Header) (after : Headers)
    (value : Bytes) :
    changeHeader (before ++ header :: after) header.name
      (before.countP (·.name == header.name) + 1) (some value) =
      before ++ ⟨header.name, some value⟩ :: after := by
  simp only [changeHeader, lookupByNameWithIndex]
  rw [findNth_append_cons (fun h : Header => h.name == header.name) before header after (by simp)]
  simp [modify_append_cons]

private theorem indexInSameHeaderNameFrom_append_cons (before : Headers) (target : Header)
    (after : Headers) (count : Int) (h : target ∉ before) :
    indexInSameHeaderNameFrom target count (before ++ target :: after) =
      count + before.countP (·.name == target.name) + 1 := by
  induction before generalizing count with
  | nil => simp [indexInSameHeaderNameFrom]
  | cons header rest ih =>
      have hrest : target ∉ rest := fun hmem => h (List.mem_cons_of_mem _ hmem)
      have hne : header ≠ target := fun heq => h (by simp [heq])
      by_cases hname : header.name = target.name
      · have hvalue : header.value ≠ target.value := by
          intro heq
          exact hne (by cases header; cases target; simp_all)
        simp only [List.cons_append, indexInSameHeaderNameFrom, hname, hvalue, ne_eq,
          not_true_eq_false, if_false]
        rw [ih _ hrest, List.countP_cons_of_pos (by simp [hname])]
        omega
      · simp only [List.cons_append, indexInSameHeaderNameFrom, hname, ne_eq, not_false_eq_true,
          if_true]
        rw [ih _ hrest, List.countP_cons_of_neg (by simp [hname])]

/-- The index of a header with no equal header before it counts the headers of its name there. -/
theorem indexInSameHeaderName_append_cons (before : Headers) (target : Header) (after : Headers)
    (h : target ∉ before) :
    indexInSameHeaderName (before ++ target :: after) target =
      ((before.countP (·.name == target.name) + 1 : Nat) : Int) := by
  rw [indexInSameHeaderName, indexInSameHeaderNameFrom_append_cons before target after 0 h]
  omega

private theorem indexInSameHeaderNameFrom_filter (headers : Headers) (target : Header)
    (count : Int) :
    indexInSameHeaderNameFrom target count (List.filter (·.name == target.name) headers) =
      indexInSameHeaderNameFrom target count headers := by
  induction headers generalizing count with
  | nil => rfl
  | cons header rest ih =>
      by_cases hname : header.name = target.name
      · simp [indexInSameHeaderNameFrom, hname, ih]
      · simp [indexInSameHeaderNameFrom, hname, ih]

/-- The index of a header only looks at the headers of its name. -/
theorem indexInSameHeaderName_filter (headers : Headers) (target : Header) :
    indexInSameHeaderName (List.filter (·.name == target.name) headers) target =
      indexInSameHeaderName headers target :=
  indexInSameHeaderNameFrom_filter headers target 0

/-- A header of the list has a positive index. -/
theorem indexInSameHeaderName_pos (headers : Headers) (target : Header) (h : target ∈ headers) :
    0 < indexInSameHeaderName headers target := by
  obtain ⟨before, header, after, rfl, heq, hbefore⟩ :=
    exists_first_match (· == target) headers ⟨target, h, by simp⟩
  obtain rfl : header = target := by simpa using heq
  rw [indexInSameHeaderName_append_cons before header after fun hmem => by
    simpa using hbefore header hmem]
  omega

end Headers

end MilterManager.Core
