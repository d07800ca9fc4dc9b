import MilterManager.Children.HeaderDiff

/-!
# Replaying the header diff

One walk over the modified headers against the original ones explains the signals of
`HeaderDiff.lean`: each modified header keeps, rewrites or is inserted before an original one. The
replay of the signals is the list the walk leaves as long as every index names the header that was
meant, and that list is the modified one when the walk never goes back.
-/

namespace MilterManager.Children

open MilterManager.Base MilterManager.Core

/-- A header of the list being replayed: an original one not yet accounted for, or the modified
header that took the place of an original one or was inserted. -/
inductive MarkedHeader where
  | waiting (original : Header)
  | placed (original : Option Header) (header : Header)
deriving DecidableEq, Repr

namespace MarkedHeader

/-- The header that stands in the list. -/
def header : MarkedHeader → Header
  | waiting original => original
  | placed _ header => header

/-- The original header, while it waits. -/
def waiting? : MarkedHeader → Option Header
  | waiting original => some original
  | placed _ _ => none

/-- The modified header, once it is placed. -/
def placed? : MarkedHeader → Option Header
  | waiting _ => none
  | placed _ header => some header

/-- The original header whose place this is. -/
def origin? : MarkedHeader → Option Header
  | waiting original => some original
  | placed source _ => source

/-- `original` is the header that the place belonged to in the original list. -/
def Marks (original : Header) : MarkedHeader → Prop
  | waiting header => header = original
  | placed source _ => source = some original

end MarkedHeader

@[simp] theorem MarkedHeader.header_waiting (original : Header) :
    (MarkedHeader.waiting original).header = original := rfl

@[simp] theorem MarkedHeader.header_placed (source : Option Header) (header : Header) :
    (MarkedHeader.placed source header).header = header := rfl

/-- The original headers not yet accounted for: `processing_headers` of the source. -/
def waitingHeaders (marked : List MarkedHeader) : Headers :=
  marked.filterMap MarkedHeader.waiting?

/-- The modified headers placed so far. -/
def placedHeaders (marked : List MarkedHeader) : Headers :=
  marked.filterMap MarkedHeader.placed?

/-- The place of a modified header: behind `before`, over `found` when there is one. -/
structure Slot where
  before : List MarkedHeader
  found : Option Header
  after : List MarkedHeader

/-- The list with the header put into the slot. -/
def Slot.fill (slot : Slot) (header : Header) : List MarkedHeader :=
  slot.before ++ .placed slot.found header :: slot.after

/-- The first equal original header, else the first one of that name, else position `i`. -/
def slotFor (marked : List MarkedHeader) (i : Nat) (header : Header) : Slot :=
  match splitFirst (fun m => m.waiting? == some header) marked with
  | some (before, _, after) => ⟨before, some header, after⟩
  | none =>
      match splitFirst (fun m => m.waiting?.map (·.name) == some header.name) marked with
      | some (before, m, after) => ⟨before, m.waiting?, after⟩
      | none => ⟨marked.take i, none, marked.drop i⟩

/-- The walk over the modified headers from position `i` on. -/
def headerWalk (marked : List MarkedHeader) (i : Nat) : Headers → List MarkedHeader
  | [] => marked
  | header :: rest => headerWalk ((slotFor marked i header).fill header) (i + 1) rest

/-- A header is kept, inserted, or rewritten to a value where no equal original header was
accounted for before. -/
def Slot.unambiguous (marked : List MarkedHeader) (header : Header) (slot : Slot) : Bool :=
  match slot.found with
  | none => true
  | some found =>
      found == header ||
        (header.value.isSome && marked.all fun m =>
          match m with
          | .waiting _ => true
          | .placed source _ => source != some found)

/-- Every index of the diff means the header it names: a rewritten header has no equal header
accounted for before it, and a deleted header has no equal one in the original list. -/
def unambiguousFrom (original : Headers) (marked : List MarkedHeader) (i : Nat) :
    Headers → Bool
  | [] => (waitingHeaders marked).all fun header => original.count header == 1
  | header :: rest =>
      (slotFor marked i header).unambiguous marked header &&
        unambiguousFrom original ((slotFor marked i header).fill header) (i + 1) rest

/-- The walk only goes forward: nothing is placed behind the place of a modified header. -/
def inOrderFrom (marked : List MarkedHeader) (i : Nat) : Headers → Bool
  | [] => true
  | header :: rest =>
      placedHeaders (slotFor marked i header).after == [] &&
        inOrderFrom ((slotFor marked i header).fill header) (i + 1) rest

/-- `unambiguousFrom` for the whole diff. -/
def unambiguousDiff (original headers : Headers) : Bool :=
  unambiguousFrom original (original.map .waiting) 0 headers

/-- `inOrderFrom` for the whole diff. -/
def inOrderDiff (original headers : Headers) : Bool :=
  inOrderFrom (original.map .waiting) 0 headers

@[simp] theorem waitingHeaders_append (xs ys : List MarkedHeader) :
    waitingHeaders (xs ++ ys) = waitingHeaders xs ++ waitingHeaders ys := by
  simp [waitingHeaders]

@[simp] theorem waitingHeaders_waiting (header : Header) (ms : List MarkedHeader) :
    waitingHeaders (.waiting header :: ms) = header :: waitingHeaders ms := rfl

@[simp] theorem waitingHeaders_nil : waitingHeaders [] = [] := rfl

@[simp] theorem placedHeaders_nil : placedHeaders [] = [] := rfl

@[simp] theorem waitingHeaders_placed (source : Option Header) (header : Header)
    (ms : List MarkedHeader) : waitingHeaders (.placed source header :: ms) = waitingHeaders ms :=
  rfl

@[simp] theorem placedHeaders_append (xs ys : List MarkedHeader) :
    placedHeaders (xs ++ ys) = placedHeaders xs ++ placedHeaders ys := by
  simp [placedHeaders]

@[simp] theorem placedHeaders_waiting (header : Header) (ms : List MarkedHeader) :
    placedHeaders (.waiting header :: ms) = placedHeaders ms := rfl

@[simp] theorem placedHeaders_placed (source : Option Header) (header : Header)
    (ms : List MarkedHeader) :
    placedHeaders (.placed source header :: ms) = header :: placedHeaders ms := rfl

@[simp] theorem waitingHeaders_map_waiting (headers : Headers) :
    waitingHeaders (headers.map .waiting) = headers := by
  induction headers with
  | nil => rfl
  | cons header rest ih => simp [ih]

@[simp] theorem placedHeaders_map_waiting (headers : Headers) :
    placedHeaders (headers.map .waiting) = [] := by
  induction headers with
  | nil => rfl
  | cons header rest ih => simp [ih]

@[simp] theorem map_header_map_waiting (headers : Headers) :
    (headers.map MarkedHeader.waiting).map MarkedHeader.header = headers := by
  induction headers with
  | nil => rfl
  | cons header rest ih => simpa using ih

private theorem mem_waitingHeaders (marked : List MarkedHeader) (header : Header) :
    header ∈ waitingHeaders marked ↔ .waiting header ∈ marked := by
  induction marked with
  | nil => simp [waitingHeaders]
  | cons m ms ih => cases m <;> simp [ih]

/-- The three ways in which a modified header finds its place. -/
inductive SlotSpec (marked : List MarkedHeader) (i : Nat) (header : Header) : Slot → Prop
  /-- An equal original header keeps its place. -/
  | keep (before after : List MarkedHeader)
      (split : marked = before ++ .waiting header :: after)
      (first : header ∉ waitingHeaders before) :
      SlotSpec marked i header ⟨before, some header, after⟩
  /-- The first original header of that name is rewritten. -/
  | rewrite (before : List MarkedHeader) (found : Header) (after : List MarkedHeader)
      (split : marked = before ++ .waiting found :: after)
      (absent : header ∉ waitingHeaders marked) (same : found.name = header.name)
      (first : ∀ other ∈ waitingHeaders before, other.name ≠ header.name) :
      SlotSpec marked i header ⟨before, some found, after⟩
  /-- No original header of that name is left. -/
  | insert (fresh : ∀ other ∈ waitingHeaders marked, other.name ≠ header.name) :
      SlotSpec marked i header ⟨marked.take i, none, marked.drop i⟩

/-- `slotFor` finds the place in one of the three ways. -/
theorem slotFor_spec (marked : List MarkedHeader) (i : Nat) (header : Header) :
    SlotSpec marked i header (slotFor marked i header) := by
  unfold slotFor
  cases hkeep : splitFirst (fun m => m.waiting? == some header) marked with
  | some cut =>
      obtain ⟨before, m, after⟩ := cut
      obtain ⟨hsplit, hm, hbefore⟩ := splitFirst_eq_some _ _ _ _ _ hkeep
      obtain rfl : m = .waiting header := by
        cases m <;> simp_all [MarkedHeader.waiting?]
      refine .keep before after hsplit fun hmem => ?_
      have := hbefore _ ((mem_waitingHeaders before header).mp hmem)
      simp [MarkedHeader.waiting?] at this
  | none =>
      have habsent : header ∉ waitingHeaders marked := by
        intro hmem
        have := (splitFirst_eq_none _ _).mp hkeep _ ((mem_waitingHeaders marked header).mp hmem)
        simp [MarkedHeader.waiting?] at this
      cases hname : splitFirst (fun m => m.waiting?.map (·.name) == some header.name) marked with
      | some cut =>
          obtain ⟨before, m, after⟩ := cut
          obtain ⟨hsplit, hm, hbefore⟩ := splitFirst_eq_some _ _ _ _ _ hname
          cases m with
          | placed source h => simp [MarkedHeader.waiting?] at hm
          | waiting found =>
              refine .rewrite before found after hsplit habsent
                (by simpa [MarkedHeader.waiting?] using hm) ?_
              intro other hmem
              have := hbefore _ ((mem_waitingHeaders before other).mp hmem)
              simpa [MarkedHeader.waiting?] using this
      | none =>
          refine .insert ?_
          intro other hmem
          have := (splitFirst_eq_none _ _).mp hname _ ((mem_waitingHeaders marked other).mp hmem)
          simpa [MarkedHeader.waiting?] using this

/-- Among the headers of a name that still waits for one, every place belongs to the original
header at the same rank. -/
def RanksKept (original : Headers) (marked : List MarkedHeader) : Prop :=
  ∀ header ∈ waitingHeaders marked,
    List.Forall₂ MarkedHeader.Marks (original.filter (·.name == header.name))
      (marked.filter (·.header.name == header.name))

theorem ranksKept_map_waiting (original : Headers) :
    RanksKept original (original.map .waiting) := by
  intro header hmem
  clear hmem
  induction original with
  | nil => simp
  | cons first rest ih =>
      by_cases h : first.name = header.name
      · simpa [List.filter_cons, h, MarkedHeader.Marks] using ih
      · simpa [List.filter_cons, h] using ih

private theorem ranksKept_replace {original : Headers} {before after : List MarkedHeader}
    {found header : Header} (hname : found.name = header.name)
    (h : RanksKept original (before ++ .waiting found :: after)) :
    RanksKept original (before ++ .placed (some found) header :: after) := by
  intro other hother
  have hmem : other ∈ waitingHeaders (before ++ .waiting found :: after) := by
    simp only [waitingHeaders_append, waitingHeaders_placed, List.mem_append] at hother
    simp only [waitingHeaders_append, waitingHeaders_waiting, List.mem_append, List.mem_cons]
    tauto
  have hranks := h other hmem
  by_cases hother : found.name = other.name
  · simp only [List.filter_append, List.filter_cons, MarkedHeader.header_waiting,
      MarkedHeader.header_placed, hother, ← hname, beq_self_eq_true, if_true] at hranks ⊢
    refine forall₂_exchange hranks ?_
    intro o ho
    exact congrArg some (show found = o from ho)
  · have hheader : header.name ≠ other.name := hname ▸ hother
    simpa [List.filter_append, List.filter_cons, hother, hheader] using hranks

/-- Putting a header into its slot keeps the ranks of the names that still wait. -/
theorem ranksKept_fill {original : Headers} {marked : List MarkedHeader} {i : Nat}
    {header : Header} {slot : Slot} (h : RanksKept original marked)
    (spec : SlotSpec marked i header slot) : RanksKept original (slot.fill header) := by
  cases spec with
  | keep before after split first =>
      exact ranksKept_replace rfl (split ▸ h)
  | rewrite before found after split absent same first =>
      exact ranksKept_replace same (split ▸ h)
  | insert fresh =>
      have hcut := List.take_append_drop i marked
      generalize marked.take i = front at hcut ⊢
      generalize marked.drop i = back at hcut ⊢
      subst hcut
      intro other hother
      have hmem : other ∈ waitingHeaders (front ++ back) := by simpa [Slot.fill] using hother
      have hname : header.name ≠ other.name := (fresh other hmem).symm
      simpa [Slot.fill, List.filter_append, List.filter_cons, hname] using h other hmem

private theorem countP_name_map_header (marked : List MarkedHeader) (name : Bytes) :
    (marked.map MarkedHeader.header).countP (·.name == name) =
      (marked.filter (·.header.name == name)).length := by
  rw [List.countP_map, List.countP_eq_length_filter]
  rfl

private theorem exists_rank {original : Headers} {before after : List MarkedHeader}
    {found : Header} (h : RanksKept original (before ++ .waiting found :: after)) :
    ∃ bs as, original.filter (·.name == found.name) = bs ++ found :: as ∧
      List.Forall₂ MarkedHeader.Marks bs (before.filter (·.header.name == found.name)) := by
  have hranks := h found (by simp)
  simp only [List.filter_append, List.filter_cons, MarkedHeader.header_waiting,
    beq_self_eq_true, if_true] at hranks
  obtain ⟨bs, b, as, hsplit, hbs, hb⟩ := forall₂_split hranks
  obtain rfl : found = b := hb
  exact ⟨bs, as, hsplit, hbs⟩

private theorem index_eq_rank {original : Headers} {before : List MarkedHeader} {found : Header}
    {bs as : Headers} (hsplit : original.filter (·.name == found.name) = bs ++ found :: as)
    (hbs : List.Forall₂ MarkedHeader.Marks bs (before.filter (·.header.name == found.name)))
    (habsent : found ∉ bs) :
    (original.indexInSameHeaderName found).toNat =
      (before.map MarkedHeader.header).countP (·.name == found.name) + 1 := by
  have hall : bs.countP (·.name == found.name) = bs.length := by
    rw [List.countP_eq_length]
    intro header hheader
    have : header ∈ original.filter (·.name == found.name) := by rw [hsplit]; simp [hheader]
    exact (List.mem_filter.mp this).2
  rw [← Headers.indexInSameHeaderName_filter, hsplit,
    Headers.indexInSameHeaderName_append_cons bs found as habsent, hall, hbs.length_eq,
    countP_name_map_header, Int.toNat_natCast]

/-- The index of a waiting header is its rank in the list being replayed when no equal original
header waits or was accounted for before it. -/
theorem index_of_first_waiting {original : Headers} {before after : List MarkedHeader}
    {found : Header} (h : RanksKept original (before ++ .waiting found :: after))
    (hwaiting : found ∉ waitingHeaders before)
    (hplaced : ∀ header, .placed (some found) header ∉ before) :
    (original.indexInSameHeaderName found).toNat =
      (before.map MarkedHeader.header).countP (·.name == found.name) + 1 := by
  obtain ⟨bs, as, hsplit, hbs⟩ := exists_rank h
  refine index_eq_rank hsplit hbs ?_
  intro hmem
  obtain ⟨m, hfilter, hmarks⟩ := exists_of_forall₂_mem hbs hmem
  have hm : m ∈ before := (List.mem_filter.mp hfilter).1
  clear hfilter
  cases m with
  | waiting header =>
      obtain rfl : header = found := hmarks
      exact hwaiting ((mem_waitingHeaders _ _).mpr hm)
  | placed source header =>
      obtain rfl : source = some found := hmarks
      exact hplaced header hm

/-- The index of a waiting header is its rank when the original list has no equal header. -/
theorem index_of_unique_waiting {original : Headers} {before after : List MarkedHeader}
    {found : Header} (h : RanksKept original (before ++ .waiting found :: after))
    (hunique : original.count found = 1) :
    (original.indexInSameHeaderName found).toNat =
      (before.map MarkedHeader.header).countP (·.name == found.name) + 1 := by
  obtain ⟨bs, as, hsplit, hbs⟩ := exists_rank h
  refine index_eq_rank hsplit hbs ?_
  intro hmem
  have hcount : (original.filter (·.name == found.name)).count found = 1 := by
    rw [List.count_filter (by simp), hunique]
  rw [hsplit, List.count_append, List.count_cons_self] at hcount
  have := List.count_pos_iff.mpr hmem
  omega

/-- The deletions take out exactly the headers that still wait. -/
theorem replay_deleteHeaderSignals {original : Headers} (before after : List MarkedHeader)
    (tail : Headers) (h : RanksKept original (before ++ after))
    (hunique : ∀ header ∈ waitingHeaders before, original.count header = 1) :
    replayHeaderSignals (before.map MarkedHeader.header ++ tail)
      (deleteHeaderSignals original (waitingHeaders before)) = placedHeaders before ++ tail := by
  induction before using List.reverseRecOn generalizing after tail with
  | nil => rfl
  | append_singleton before m ih =>
      have hbefore : ∀ header ∈ waitingHeaders before, original.count header = 1 := by
        intro header hmem
        exact hunique header (by simp [hmem])
      have hrest : RanksKept original (before ++ m :: after) := by simpa using h
      cases m with
      | placed source header =>
          simpa using ih (.placed source header :: after) (header :: tail) hrest hbefore
      | waiting header =>
          have hindex := index_of_unique_waiting hrest (hunique header (by simp))
          have hsignals : deleteHeaderSignals original
            (waitingHeaders (before ++ [.waiting header]))
              = .deleteHeader header.name
                  ((before.map MarkedHeader.header).countP (·.name == header.name) + 1) ::
                deleteHeaderSignals original (waitingHeaders before) := by
            rw [← hindex]
            simp [deleteHeaderSignals]
          rw [hsignals, replayHeaderSignals_cons, HeaderSignal.apply]
          have hdelete := Headers.deleteHeader_append_cons
            (before.map MarkedHeader.header) header tail
          simp only [List.map_append, List.map_cons, List.map_nil, List.append_assoc,
            List.cons_append, List.nil_append, MarkedHeader.header_waiting]
          rw [hdelete, ih (.waiting header :: after) tail hrest hbefore]
          simp

private theorem remove_waitingHeaders {before after : List MarkedHeader} {found : Header}
    (h : found ∉ waitingHeaders before) :
    Headers.remove (waitingHeaders (before ++ .waiting found :: after)) found =
      waitingHeaders before ++ waitingHeaders after := by
  simp [Headers.remove, List.erase_append_right _ h]

/-- A header that differs from every waiting one rewrites the first of its name. -/
theorem emitHeaderSignalsFrom_rewrite {original processing : Headers} {found header : Header}
    (i : Nat) (rest : Headers) (habsent : header ∉ processing)
    (hlookup : processing.lookupByName header.name = some found) (hfound : found ∈ original) :
    emitHeaderSignalsFrom original processing i (header :: rest) =
      .changeHeader header.name (original.indexInSameHeaderName found).toNat header.value ::
        emitHeaderSignalsFrom original (processing.remove found) (i + 1) rest := by
  have hpos := Headers.indexInSameHeaderName_pos original found hfound
  have hindex : original.indexInSameHeaderName found ≠ -1 := by omega
  simp only [emitHeaderSignalsFrom, Headers.find_of_not_mem _ _ habsent, hlookup, hindex, if_false]

/-- The signals of a diff whose indices are unambiguous turn the list into what the walk leaves. -/
theorem replay_emitHeaderSignalsFrom (original headers : Headers) (marked : List MarkedHeader)
    (i : Nat) (hranks : RanksKept original marked)
    (h : unambiguousFrom original marked i headers = true) :
    replayHeaderSignals (marked.map MarkedHeader.header)
      (emitHeaderSignalsFrom original (waitingHeaders marked) i headers) =
      placedHeaders (headerWalk marked i headers) := by
  induction headers generalizing marked i with
  | nil =>
      have hunique : ∀ header ∈ waitingHeaders marked, original.count header = 1 := by
        simpa [unambiguousFrom] using h
      simpa [emitHeaderSignalsFrom, headerWalk] using
        replay_deleteHeaderSignals marked [] [] (by simpa using hranks) hunique
  | cons header rest ih =>
      simp only [unambiguousFrom, Bool.and_eq_true] at h
      obtain ⟨hslot, hrest⟩ := h
      have spec := slotFor_spec marked i header
      have hfill := ranksKept_fill hranks spec
      simp only [headerWalk]
      rw [← ih _ _ hfill hrest]
      clear ih hrest hfill
      generalize slotFor marked i header = slot at hslot spec ⊢
      cases spec with
      | keep before after split first =>
          subst split
          have hfind := Headers.find_of_mem (waitingHeaders (before ++ .waiting header :: after))
            header (by simp)
          simp only [emitHeaderSignalsFrom, hfind, remove_waitingHeaders first]
          simp [Slot.fill]
      | rewrite before found after split absent same first =>
          subst split
          have hne : found ≠ header := by
            rintro rfl
            exact absent (by simp)
          obtain ⟨value, hvalue⟩ : ∃ value, header.value = some value := by
            simp only [Slot.unambiguous, Bool.or_eq_true, beq_iff_eq, hne, false_or,
              Bool.and_eq_true, Option.isSome_iff_exists] at hslot
            exact hslot.1
          have hwaiting : found ∉ waitingHeaders before := fun hmem => first found hmem same
          have hindex := index_of_first_waiting hranks hwaiting fun other hmem => by
            simp only [Slot.unambiguous, Bool.or_eq_true, beq_iff_eq, hne, false_or,
              Bool.and_eq_true, List.all_eq_true] at hslot
            simpa using hslot.2 (.placed (some found) other) (by simp [hmem])
          have hfound : found ∈ original := by
            obtain ⟨bs, as, hsplit, -⟩ := exists_rank hranks
            have : found ∈ original.filter (·.name == found.name) := by rw [hsplit]; simp
            exact (List.mem_filter.mp this).1
          have hlookup : Headers.lookupByName
              (waitingHeaders (before ++ .waiting found :: after)) header.name = some found := by
            rw [← same, waitingHeaders_append, waitingHeaders_waiting]
            exact Headers.lookupByName_append_cons _ _ _ fun other hmem => same ▸ first other hmem
          have hheader : Header.mk found.name (some value) = header := by rw [same, ← hvalue]
          have hchange := Headers.changeHeader_append_cons (before.map MarkedHeader.header) found
            (after.map MarkedHeader.header) value
          rw [emitHeaderSignalsFrom_rewrite i rest absent hlookup hfound,
            remove_waitingHeaders hwaiting, replayHeaderSignals_cons, HeaderSignal.apply, hindex,
            hvalue, ← same, List.map_append, List.map_cons, MarkedHeader.header_waiting, hchange,
            hheader]
          simp [Slot.fill]
      | insert fresh =>
          have habsent : header ∉ waitingHeaders marked := fun hmem => fresh header hmem rfl
          have hcut := List.take_append_drop i marked
          have hwaiting : waitingHeaders (marked.take i) ++ waitingHeaders (marked.drop i)
              = waitingHeaders marked := by rw [← waitingHeaders_append, hcut]
          simp only [emitHeaderSignalsFrom, Headers.find_of_not_mem _ _ habsent,
            Headers.lookupByName_eq_none _ _ fresh, replayHeaderSignals_cons, HeaderSignal.apply,
            Headers.insertHeader, insertAt]
          simp [Slot.fill, hwaiting]

/-- The headers placed before and after a slot are the headers placed so far. -/
theorem placedHeaders_slot {marked : List MarkedHeader} {i : Nat} {header : Header} {slot : Slot}
    (spec : SlotSpec marked i header slot) :
    placedHeaders marked = placedHeaders slot.before ++ placedHeaders slot.after := by
  cases spec with
  | keep before after split first => simp [split]
  | rewrite before found after split absent same first => simp [split]
  | insert fresh => rw [← placedHeaders_append, List.take_append_drop]

/-- A walk that goes forward places the modified headers in their order. -/
theorem placedHeaders_headerWalk (headers : Headers) (marked : List MarkedHeader) (i : Nat)
    (h : inOrderFrom marked i headers = true) :
    placedHeaders (headerWalk marked i headers) = placedHeaders marked ++ headers := by
  induction headers generalizing marked i with
  | nil => simp [headerWalk]
  | cons header rest ih =>
      simp only [inOrderFrom, Bool.and_eq_true, beq_iff_eq] at h
      obtain ⟨hafter, hrest⟩ := h
      have hslot := placedHeaders_slot (slotFor_spec marked i header)
      rw [headerWalk, ih _ _ hrest, hslot, hafter]
      simp [Slot.fill, hafter]

private theorem placedHeaders_sublist_headerWalk (headers : Headers) (marked : List MarkedHeader)
    (i : Nat) : (placedHeaders marked).Sublist (placedHeaders (headerWalk marked i headers)) := by
  induction headers generalizing marked i with
  | nil => simp [headerWalk]
  | cons header rest ih =>
      have hslot := placedHeaders_slot (slotFor_spec marked i header)
      refine .trans ?_ (ih ((slotFor marked i header).fill header) (i + 1))
      rw [hslot, Slot.fill, placedHeaders_append, placedHeaders_placed]
      exact (List.Sublist.refl _).append (List.sublist_cons_self _ _)

/-- Without repeated headers only a walk that goes forward places them in their order. -/
theorem inOrderFrom_of_placedHeaders (headers : Headers) (marked : List MarkedHeader) (i : Nat)
    (hnodup : (placedHeaders marked ++ headers).Nodup)
    (h : placedHeaders (headerWalk marked i headers) = placedHeaders marked ++ headers) :
    inOrderFrom marked i headers = true := by
  induction headers generalizing marked i with
  | nil => rfl
  | cons header rest ih =>
      have hslot := placedHeaders_slot (slotFor_spec marked i header)
      have hwalk := placedHeaders_sublist_headerWalk rest ((slotFor marked i header).fill header)
        (i + 1)
      rw [headerWalk] at h
      simp only [inOrderFrom, Bool.and_eq_true, beq_iff_eq]
      generalize slotFor marked i header = slot at h hslot hwalk ⊢
      have hprefix : (placedHeaders marked ++ [header]).Sublist
        (placedHeaders marked ++ header :: rest) :=
        (List.Sublist.refl _).append (by simp)
      -- Both lists hold the headers placed up to now, and the final list has each of them once.
      have hfill : placedHeaders (slot.fill header) = placedHeaders marked ++ [header] := by
        refine sublist_eq_of_perm hnodup (h ▸ hwalk) hprefix ?_
        rw [Slot.fill, placedHeaders_append, placedHeaders_placed, hslot, List.append_assoc]
        exact List.Perm.append_left _ (List.perm_append_singleton _ _).symm
      have hafter : placedHeaders slot.after = [] := by
        rw [Slot.fill, placedHeaders_append, placedHeaders_placed, hslot, List.append_assoc,
          List.append_cancel_left_eq] at hfill
        cases hcases : placedHeaders slot.after with
        | nil => rfl
        | cons first others =>
            rw [hcases, List.cons_append, List.cons.injEq] at hfill
            have hmem : header ∈ placedHeaders marked := by rw [hslot, hcases, hfill.1]; simp
            exact absurd rfl ((List.nodup_append.mp hnodup).2.2 header hmem header (by simp))
      refine ⟨hafter, ih _ _ ?_ ?_⟩
      · rw [hfill, List.append_assoc]; exact hnodup
      · rw [hfill, List.append_assoc]; exact h

/-- The original headers whose places the list holds. -/
def originHeaders (marked : List MarkedHeader) : Headers :=
  marked.filterMap MarkedHeader.origin?

@[simp] theorem originHeaders_append (xs ys : List MarkedHeader) :
    originHeaders (xs ++ ys) = originHeaders xs ++ originHeaders ys := by
  simp [originHeaders]

@[simp] theorem originHeaders_waiting (header : Header) (ms : List MarkedHeader) :
    originHeaders (.waiting header :: ms) = header :: originHeaders ms := rfl

private theorem mem_originHeaders {marked : List MarkedHeader} {original header : Header}
    (h : .placed (some original) header ∈ marked) : original ∈ originHeaders marked := by
  rw [originHeaders, List.mem_filterMap]
  exact ⟨_, h, rfl⟩

private theorem originHeaders_fill {marked : List MarkedHeader} {i : Nat} {header : Header}
    {slot : Slot} (spec : SlotSpec marked i header slot) :
    originHeaders (slot.fill header) = originHeaders marked := by
  cases spec with
  | keep before after split first =>
      simp [split, originHeaders, Slot.fill, MarkedHeader.origin?]
  | rewrite before found after split absent same first =>
      simp [split, originHeaders, Slot.fill, MarkedHeader.origin?]
  | insert fresh =>
      have hcut := List.take_append_drop i marked
      generalize marked.take i = front at hcut ⊢
      generalize marked.drop i = back at hcut ⊢
      simp [← hcut, originHeaders, Slot.fill, MarkedHeader.origin?, List.filterMap_cons]

private theorem waitingHeaders_subset_originHeaders (marked : List MarkedHeader) :
    waitingHeaders marked ⊆ originHeaders marked := by
  intro header hmem
  rw [originHeaders, List.mem_filterMap]
  exact ⟨_, (mem_waitingHeaders marked header).mp hmem, rfl⟩

/-- Without repeated original headers no index is ambiguous. -/
theorem unambiguousFrom_of_nodup {original : Headers} (hnodup : original.Nodup)
    (headers : Headers) (hvalues : ∀ header ∈ headers, header.value.isSome)
    (marked : List MarkedHeader) (i : Nat) (horigin : originHeaders marked = original) :
    unambiguousFrom original marked i headers = true := by
  induction headers generalizing marked i with
  | nil =>
      simp only [unambiguousFrom, List.all_eq_true, beq_iff_eq]
      intro header hmem
      have : header ∈ original := horigin ▸ waitingHeaders_subset_originHeaders marked hmem
      rw [hnodup.count, if_pos this]
  | cons header rest ih =>
      have spec := slotFor_spec marked i header
      simp only [unambiguousFrom, Bool.and_eq_true]
      refine ⟨?_, ih (fun other hmem => hvalues other (by simp [hmem])) _ _
        ((originHeaders_fill spec).trans horigin)⟩
      generalize slotFor marked i header = slot at spec ⊢
      cases spec with
      | keep before after split first => simp [Slot.unambiguous]
      | insert fresh => rfl
      | rewrite before found after split absent same first =>
          subst split
          simp only [Slot.unambiguous, hvalues header (by simp), Bool.true_and, Bool.or_eq_true,
            List.all_eq_true]
          refine .inr ?_
          intro m hm
          cases m with
          | waiting other => rfl
          | placed source other =>
              simp only [bne_iff_ne, ne_eq]
              rintro rfl
              rw [← horigin, originHeaders_append, originHeaders_waiting] at hnodup
              obtain ⟨-, hnotin, hdisjoint⟩ := List.nodup_append.mp hnodup
              rcases List.mem_append.mp hm with hm | hm
              · exact hdisjoint found (mem_originHeaders hm) found (by simp) rfl
              · rcases List.mem_cons.mp hm with hm | hm
                · cases hm
                · exact (List.nodup_cons.mp hnotin).1 (mem_originHeaders hm)

/-- The replay of the header signals is the modified header list when no index is ambiguous and
the diff never goes back, and without repeated headers only then. -/
theorem replay_emitHeaderSignals (original headers : Headers) :
    (unambiguousDiff original headers = true ∧ inOrderDiff original headers = true →
      replayHeaderSignals original (emitHeaderSignals original headers) = headers) ∧
    (original.Nodup → headers.Nodup → (∀ header ∈ headers, header.value.isSome) →
      (replayHeaderSignals original (emitHeaderSignals original headers) = headers ↔
        unambiguousDiff original headers = true ∧ inOrderDiff original headers = true)) := by
  have hreplay (h : unambiguousDiff original headers = true) :
      replayHeaderSignals original (emitHeaderSignals original headers) =
        placedHeaders (headerWalk (original.map .waiting) 0 headers) := by
    have hwalk := replay_emitHeaderSignalsFrom original headers (original.map .waiting) 0
      (ranksKept_map_waiting original) h
    rwa [map_header_map_waiting, waitingHeaders_map_waiting] at hwalk
  have hforward : unambiguousDiff original headers = true ∧ inOrderDiff original headers = true →
      replayHeaderSignals original (emitHeaderSignals original headers) = headers := by
    rintro ⟨hunambiguous, horder⟩
    rw [hreplay hunambiguous]
    simpa using placedHeaders_headerWalk headers (original.map .waiting) 0 horder
  refine ⟨hforward, ?_⟩
  intro horiginal hheaders hvalues
  refine ⟨?_, hforward⟩
  intro hequal
  have horigin : originHeaders (original.map .waiting) = original := by
    rw [originHeaders, List.filterMap_map]
    exact List.filterMap_some
  have hunambiguous : unambiguousDiff original headers = true :=
    unambiguousFrom_of_nodup horiginal headers hvalues (original.map .waiting) 0 horigin
  refine ⟨hunambiguous, ?_⟩
  clear hforward
  rw [hreplay hunambiguous] at hequal
  exact inOrderFrom_of_placedHeaders headers (original.map .waiting) 0 (by simpa using hheaders)
    (by simpa using hequal)

/-- A child that rewrites the first of two headers. -/
theorem replay_emitHeaderSignals_rewritten :
    replayHeaderSignals [⟨[65], some [49]⟩, ⟨[66], some [49]⟩]
      (emitHeaderSignals [⟨[65], some [49]⟩, ⟨[66], some [49]⟩]
        [⟨[65], some [50]⟩, ⟨[66], some [49]⟩]) =
      [⟨[65], some [50]⟩, ⟨[66], some [49]⟩] :=
  (replay_emitHeaderSignals _ _).1 (by decide)

/-- A header inserted after an original one was passed over lands too early: a child that
deletes `A` and appends `C` leaves `B`, `C`, and the replay gives `C`, `B`. -/
theorem replay_emitHeaderSignals_ne :
    replayHeaderSignals [⟨[65], some [49]⟩, ⟨[66], some [49]⟩]
      (emitHeaderSignals [⟨[65], some [49]⟩, ⟨[66], some [49]⟩]
        [⟨[66], some [49]⟩, ⟨[67], some [49]⟩]) ≠
      [⟨[66], some [49]⟩, ⟨[67], some [49]⟩] := by
  decide

end MilterManager.Children
