import MilterManager.Tool.MailFile

/-!
# What a mail file is

The files that `--mail-file` of `tool/milter-test-server.c` accepts, and what it reads from them:
fields, each with lines that go on with it, an empty line, and the body.
-/

namespace MilterManager.Tool

open MilterManager.Core MilterManager.Client

/-! ## Lines -/

/-- What stands before the newline at the end of a line. -/
def lineEnd (cr : Bool) : Bytes := if cr then [13] else []

/-- The `'\r'` at the end of a line counts as part of the line end. -/
def Printed (line : Bytes) (cr : Bool) : Prop := cr = false → line.getLast? ≠ some 13

/-- Every line is a text and a line end. -/
theorem exists_printed (line : Bytes) :
    ∃ text cr, line = text ++ lineEnd cr ∧ Printed text cr := by
  by_cases h : line.getLast? = some 13
  · refine ⟨line.dropLast, true, ?_, fun hfalse => by cases hfalse⟩
    exact (List.dropLast_append_getLast? 13 h).symm
  · exact ⟨line, false, (List.append_nil line).symm, fun _ => h⟩

section Printed

variable {text : Bytes} {cr : Bool}

theorem withoutCarriageReturn_printed (h : Printed text cr) :
    withoutCarriageReturn (text ++ lineEnd cr) = text := by
  cases cr with
  | true => exact withoutCarriageReturn_append text
  | false =>
      rw [lineEnd, if_neg Bool.false_ne_true, List.append_nil]
      exact withoutCarriageReturn_eq_self_iff.mpr (h rfl)

theorem getLast?_printed (h : Printed text cr) :
    decide ((text ++ lineEnd cr).getLast? = some 13) = cr := by
  cases cr with
  | true => simp [lineEnd]
  | false => simpa [lineEnd] using h rfl

end Printed

/-! ## Fields -/

/-- A header as it stands in a file, with the lines that go on with it. -/
structure Field where
  name : Bytes
  space : Bytes
  text : Bytes
  cr : Bool
  folded : List (Bytes × Bool)

namespace Field

/-- The first line. -/
def firstLine (field : Field) : Bytes := field.name ++ 58 :: (field.space ++ field.text)

/-- The lines of a field. -/
def lines (field : Field) : List Bytes :=
  (field.firstLine ++ lineEnd field.cr) :: field.folded.map fun line => line.1 ++ lineEnd line.2

/-- What a line that goes on with a header adds to its value: the newline is as the line itself
ends. -/
def continued (folded : List (Bytes × Bool)) : Bytes :=
  folded.flatMap fun line => lineEnd line.2 ++ 10 :: line.1

/-- The header that is read. -/
def header (field : Field) : Header := ⟨field.name, some (field.text ++ continued field.folded)⟩

/-- A line that goes on with a header. -/
def Goes (line : Bytes × Bool) : Prop := startsWithSpace line.1 ∧ Printed line.1 line.2

/-- A field that is read as it stands. -/
structure WellFormed (field : Field) : Prop where
  name : field.name.head?.any Ascii.isAlnum
  colon : 58 ∉ field.name
  space : ∀ c ∈ field.space, Ascii.isSpace c
  text : ∀ c, field.text.head? = some c → Ascii.isSpace c = false
  printed : Printed field.firstLine field.cr
  folded : ∀ line ∈ field.folded, Goes line

end Field

/-- A line that is no part of a field: it is neither empty, nor does it go on with a header. -/
def Bad (line : Bytes) : Prop := line ≠ [] ∧ isHeader line = false ∧ startsWithSpace line = false

/-! ## One line -/

section Lines

variable {line text : Bytes} {cr : Bool} {field : Field} {headers : Headers} {lines : List Bytes}

theorem isSpace_of_isAlnum {c : UInt8} (h : Ascii.isAlnum c) : Ascii.isSpace c = false := by
  by_contra hspace
  simp only [Bool.not_eq_false, Ascii.isSpace, Bool.or_eq_true, beq_iff_eq] at hspace
  rcases hspace with (((rfl | rfl) | rfl) | rfl) | rfl <;> exact absurd h (by decide)

theorem not_isHeader_of_startsWithSpace (h : startsWithSpace line) : isHeader line = false := by
  cases line with
  | nil => rfl
  | cons c line =>
      have hspace : Ascii.isSpace c := h
      have halnum : Ascii.isAlnum c = false := by
        by_contra halnum
        rw [isSpace_of_isAlnum (by simpa using halnum)] at hspace
        cases hspace
      simp [isHeader, halnum]

theorem ne_nil_of_startsWithSpace (h : startsWithSpace line) : line ≠ [] := by
  rintro rfl
  cases h

theorem collectHeaders_printed (h : Printed text cr) :
    collectHeaders ((text ++ lineEnd cr) :: lines) headers =
      if text = [] then .ok (headers, lines)
      else if isHeader text then collectHeaders lines (appendHeaderLine headers text)
      else if startsWithSpace text then
        (appendHeaderValue headers text (lineEnd cr ++ [10])).elim (.error .noLastHeader)
          (collectHeaders lines)
      else .error (.invalidHeader text) := by
  have hnewLine : (if cr then [13, 10] else [10] : Bytes) = lineEnd cr ++ [10] := by
    cases cr <;> rfl
  rw [collectHeaders]
  simp only [withoutCarriageReturn_printed h, getLast?_printed h, hnewLine]
  cases appendHeaderValue headers text (lineEnd cr ++ [10]) <;> rfl

/-- An empty line ends the headers. -/
theorem collectHeaders_empty (cr : Bool) :
    collectHeaders (lineEnd cr :: lines) headers = .ok (headers, lines) := by
  have hprinted : Printed [] cr := fun _ h => by cases h
  have hread : collectHeaders (([] ++ lineEnd cr) :: lines) headers = _ :=
    collectHeaders_printed hprinted
  rwa [List.nil_append, if_pos rfl] at hread

theorem appendHeaderLine_firstLine (h : field.WellFormed) :
    appendHeaderLine headers field.firstLine = headers ++ [⟨field.name, some field.text⟩] := by
  have hname : ∀ c ∈ field.name, (c != 58) = true := by
    intro c hc
    rw [bne_iff_ne]
    rintro rfl
    exact h.colon hc
  have htake : field.firstLine.takeWhile (· != 58) = field.name := by
    rw [Field.firstLine, List.takeWhile_append_of_pos hname, List.takeWhile_cons_of_neg (by decide),
      List.append_nil]
  have hdrop : field.firstLine.dropWhile (· != 58) = 58 :: (field.space ++ field.text) := by
    rw [Field.firstLine, List.dropWhile_append_of_pos hname, List.dropWhile_cons_of_neg (by decide)]
  have htext : field.text.dropWhile Ascii.isSpace = field.text := by
    cases htext : field.text with
    | nil => rfl
    | cons c rest =>
        have := h.text c (by rw [htext, List.head?_cons])
        rw [List.dropWhile_cons_of_neg (by simpa using this)]
  rw [appendHeaderLine, htake, hdrop, List.drop_one, List.tail_cons,
    List.dropWhile_append_of_pos h.space, htext, Headers.appendHeader]

theorem collectHeaders_firstLine (h : field.WellFormed) :
    collectHeaders ((field.firstLine ++ lineEnd field.cr) :: lines) headers =
      collectHeaders lines (headers ++ [⟨field.name, some field.text⟩]) := by
  have hheader : isHeader field.firstLine := by
    have hname := h.name
    cases hcase : field.name with
    | nil =>
        rw [hcase] at hname
        cases hname
    | cons c name =>
        rw [hcase, List.head?_cons, Option.any_some] at hname
        simp [isHeader, Field.firstLine, hcase, hname]
  have hne : field.firstLine ≠ [] := by simp [Field.firstLine]
  rw [collectHeaders_printed h.printed, if_neg hne, if_pos hheader, appendHeaderLine_firstLine h]

/-- A line that goes on with a header belongs to the last one. -/
theorem collectHeaders_goes {line : Bytes × Bool} (h : Field.Goes line) (name value : Bytes) :
    collectHeaders ((line.1 ++ lineEnd line.2) :: lines) (headers ++ [⟨name, some value⟩]) =
      collectHeaders lines
        (headers ++ [⟨name, some (value ++ (lineEnd line.2 ++ 10 :: line.1))⟩]) := by
  have hlast : appendHeaderValue (headers ++ [⟨name, some value⟩]) line.1 (lineEnd line.2 ++ [10]) =
      some (headers ++ [⟨name, some (value ++ (lineEnd line.2 ++ 10 :: line.1))⟩]) := by
    simp [appendHeaderValue, Headers.getNthHeader]
  rw [collectHeaders_printed h.2, if_neg (ne_nil_of_startsWithSpace h.1),
    if_neg (by simp [not_isHeader_of_startsWithSpace h.1]), if_pos h.1, hlast, Option.elim_some]

/-- Without a header there is nothing to go on with. -/
theorem collectHeaders_goes_nil {line : Bytes × Bool} (h : Field.Goes line) :
    collectHeaders ((line.1 ++ lineEnd line.2) :: lines) [] = .error .noLastHeader := by
  rw [collectHeaders_printed h.2, if_neg (ne_nil_of_startsWithSpace h.1),
    if_neg (by simp [not_isHeader_of_startsWithSpace h.1]), if_pos h.1]
  rfl

theorem collectHeaders_bad (h : Bad text) (hprinted : Printed text cr) :
    collectHeaders ((text ++ lineEnd cr) :: lines) headers = .error (.invalidHeader text) := by
  rw [collectHeaders_printed hprinted, if_neg h.1, if_neg (by simp [h.2.1]),
    if_neg (by simp [h.2.2])]

end Lines

/-! ## Many lines -/

section Fields

variable {field : Field} {headers : Headers} {lines : List Bytes}

theorem collectHeaders_folded (folded : List (Bytes × Bool)) (h : ∀ line ∈ folded, Field.Goes line)
    (name value : Bytes) :
    collectHeaders ((folded.map fun line => line.1 ++ lineEnd line.2) ++ lines)
        (headers ++ [⟨name, some value⟩]) =
      collectHeaders lines (headers ++ [⟨name, some (value ++ Field.continued folded)⟩]) := by
  induction folded generalizing value with
  | nil => rw [List.map_nil, List.nil_append, Field.continued, List.flatMap_nil, List.append_nil]
  | cons line folded ih =>
      rw [List.map_cons, List.cons_append, collectHeaders_goes (h line List.mem_cons_self),
        ih (fun other hother => h other (List.mem_cons_of_mem _ hother)), Field.continued,
        Field.continued, List.flatMap_cons, List.append_assoc]

theorem collectHeaders_field (h : field.WellFormed) :
    collectHeaders (field.lines ++ lines) headers =
      collectHeaders lines (headers ++ [field.header]) := by
  rw [Field.lines, List.cons_append, collectHeaders_firstLine h, collectHeaders_folded _ h.folded,
    Field.header]

theorem collectHeaders_fields (fields : List Field) (h : ∀ field ∈ fields, field.WellFormed) :
    collectHeaders (fields.flatMap Field.lines ++ lines) headers =
      collectHeaders lines (headers ++ fields.map Field.header) := by
  induction fields generalizing headers with
  | nil => rw [List.flatMap_nil, List.nil_append, List.map_nil, List.append_nil]
  | cons field fields ih =>
      rw [List.flatMap_cons, List.append_assoc, collectHeaders_field (h field List.mem_cons_self),
        ih fun other hother => h other (List.mem_cons_of_mem _ hother), List.map_cons,
        List.append_assoc, List.singleton_append]

/-- A line that is a header is the first line of a field. -/
theorem exists_field {text : Bytes} {cr : Bool} (hprinted : Printed text cr)
    (hheader : isHeader text) (folded : List (Bytes × Bool))
    (hfolded : ∀ line ∈ folded, Field.Goes line) :
    ∃ field : Field, field.WellFormed ∧ field.firstLine = text ∧ field.cr = cr ∧
      field.folded = folded := by
  rw [isHeader, Bool.and_eq_true, List.contains_iff_mem] at hheader
  obtain ⟨name, rest, rfl, hcolon⟩ := List.eq_append_cons_of_mem hheader.2
  have hspaced : rest = rest.takeWhile Ascii.isSpace ++ rest.dropWhile Ascii.isSpace :=
    List.takeWhile_append_dropWhile.symm
  refine ⟨⟨name, rest.takeWhile Ascii.isSpace, rest.dropWhile Ascii.isSpace, cr, folded⟩, ?_, ?_,
    rfl, rfl⟩
  · constructor
    · cases name with
      | nil =>
          have hcolon : Ascii.isAlnum 58 := hheader.1
          exact absurd hcolon (by decide)
      | cons c name => exact hheader.1
    · exact hcolon
    · exact fun c hc => List.mem_takeWhile_imp hc
    · intro c hc
      have := List.head?_dropWhile_not Ascii.isSpace rest
      rw [hc] at this
      exact this
    · show Printed (name ++ 58 :: (_ ++ _)) cr
      rwa [← hspaced]
    · exact hfolded
  · show name ++ 58 :: (_ ++ _) = _
    rw [← hspaced]

/-- What ends the fields: the end of the file, an empty line, or a line that is no part of one. -/
inductive Tail : List Bytes → Prop where
  | nil : Tail []
  | empty (cr : Bool) (rest : List Bytes) : Tail (lineEnd cr :: rest)
  | bad (text : Bytes) (cr : Bool) (rest : List Bytes) (h : Bad text) (hprinted : Printed text cr) :
      Tail ((text ++ lineEnd cr) :: rest)

/-- The lines of every file: lines that would go on with a header, fields, and what ends them. -/
theorem exists_fields (lines : List Bytes) :
    ∃ (folded : List (Bytes × Bool)) (fields : List Field) (tail : List Bytes),
      (∀ line ∈ folded, Field.Goes line) ∧ (∀ field ∈ fields, field.WellFormed) ∧ Tail tail ∧
      lines = (folded.map fun line => line.1 ++ lineEnd line.2) ++
        (fields.flatMap Field.lines ++ tail) := by
  induction lines with
  | nil => exact ⟨[], [], [], by simp, by simp, .nil, rfl⟩
  | cons line lines ih =>
      rcases ih with ⟨folded, fields, tail, hfolded, hfields, htail, hlines⟩
      rcases exists_printed line with ⟨text, cr, rfl, hprinted⟩
      by_cases hempty : text = []
      · subst hempty
        exact ⟨[], [], _, by simp, by simp, .empty cr lines, rfl⟩
      by_cases hheader : isHeader text
      · -- the lines that would go on with a header belong to this one
        rcases exists_field hprinted hheader folded hfolded with ⟨field, hfield, rfl, rfl, rfl⟩
        refine ⟨[], field :: fields, tail, by simp, ?_, htail, ?_⟩
        · intro other hother
          rcases List.mem_cons.mp hother with rfl | hother
          · exact hfield
          · exact hfields other hother
        · rw [hlines]
          simp [Field.lines]
      by_cases hspace : startsWithSpace text
      · refine ⟨(text, cr) :: folded, fields, tail, ?_, hfields, htail, ?_⟩
        · intro other hother
          rcases List.mem_cons.mp hother with rfl | hother
          · exact ⟨hspace, hprinted⟩
          · exact hfolded other hother
        · rw [hlines]
          rfl
      · refine ⟨[], [], _, by simp, by simp, .bad text cr lines ⟨hempty, ?_, ?_⟩ hprinted, rfl⟩
        · simpa using hheader
        · simpa using hspace

theorem collectHeaders_fields_nil (fields : List Field) (h : ∀ field ∈ fields, field.WellFormed) :
    collectHeaders (fields.flatMap Field.lines) [] = .ok (fields.map Field.header, []) := by
  have hread : collectHeaders (fields.flatMap Field.lines ++ []) [] = _ :=
    collectHeaders_fields fields h
  rwa [List.append_nil, List.nil_append] at hread

theorem collectHeaders_fields_empty (fields : List Field) (h : ∀ field ∈ fields, field.WellFormed)
    (cr : Bool) (rest : List Bytes) :
    collectHeaders (fields.flatMap Field.lines ++ lineEnd cr :: rest) [] =
      .ok (fields.map Field.header, rest) := by
  rw [collectHeaders_fields fields h, collectHeaders_empty, List.nil_append]

theorem collectHeaders_fields_bad (fields : List Field) (h : ∀ field ∈ fields, field.WellFormed)
    {text : Bytes} {cr : Bool} (hbad : Bad text) (hprinted : Printed text cr) (rest : List Bytes) :
    collectHeaders (fields.flatMap Field.lines ++ (text ++ lineEnd cr) :: rest) [] =
      .error (.invalidHeader text) := by
  rw [collectHeaders_fields fields h, collectHeaders_bad hbad hprinted]

/-- What becomes of the lines of a file. -/
inductive Collected (lines : List Bytes) : Except MailError (Headers × List Bytes) → Prop where
  | nil (fields : List Field) (h : ∀ field ∈ fields, field.WellFormed)
      (hlines : lines = fields.flatMap Field.lines) :
      Collected lines (.ok (fields.map Field.header, []))
  | empty (fields : List Field) (cr : Bool) (rest : List Bytes)
      (h : ∀ field ∈ fields, field.WellFormed)
      (hlines : lines = fields.flatMap Field.lines ++ lineEnd cr :: rest) :
      Collected lines (.ok (fields.map Field.header, rest))
  | bad (fields : List Field) (text : Bytes) (cr : Bool) (rest : List Bytes)
      (h : ∀ field ∈ fields, field.WellFormed) (hbad : Bad text) (hprinted : Printed text cr)
      (hlines : lines = fields.flatMap Field.lines ++ (text ++ lineEnd cr) :: rest) :
      Collected lines (.error (.invalidHeader text))
  | goes (line : Bytes × Bool) (rest : List Bytes) (h : Field.Goes line)
      (hlines : lines = (line.1 ++ lineEnd line.2) :: rest) :
      Collected lines (.error .noLastHeader)

theorem collected (lines : List Bytes) : Collected lines (collectHeaders lines []) := by
  rcases exists_fields lines with ⟨folded, fields, tail, hfolded, hfields, htail, hlines⟩
  cases folded with
  | cons line folded =>
      rw [List.map_cons, List.cons_append] at hlines
      rw [hlines, collectHeaders_goes_nil (hfolded line List.mem_cons_self)]
      exact .goes line _ (hfolded line List.mem_cons_self) rfl
  | nil =>
      rw [List.map_nil, List.nil_append] at hlines
      cases htail with
      | nil =>
          rw [List.append_nil] at hlines
          rw [hlines, collectHeaders_fields_nil fields hfields]
          exact .nil fields hfields rfl
      | empty cr rest =>
          rw [hlines, collectHeaders_fields_empty fields hfields]
          exact .empty fields cr rest hfields rfl
      | bad text cr rest hbad hprinted =>
          rw [hlines, collectHeaders_fields_bad fields hfields hbad hprinted]
          exact .bad fields text cr rest hfields hbad hprinted rfl

theorem exists_fields_of_ok {rest : List Bytes}
    (h : collectHeaders lines [] = .ok (headers, rest)) :
    ∃ fields : List Field, (∀ field ∈ fields, field.WellFormed) ∧
      headers = fields.map Field.header ∧
      (lines = fields.flatMap Field.lines ∧ rest = [] ∨
        ∃ cr, lines = fields.flatMap Field.lines ++ lineEnd cr :: rest) := by
  have hcollected := collected lines
  rw [h] at hcollected
  cases hcollected with
  | nil fields hfields hlines => exact ⟨fields, hfields, rfl, .inl ⟨hlines, rfl⟩⟩
  | empty fields cr _ hfields hlines => exact ⟨fields, hfields, rfl, .inr ⟨cr, hlines⟩⟩

end Fields

/-- The headers of a file are read exactly when its lines are fields up to an empty line or to the
end. The first line that is no part of a field is refused, and a file whose first line goes on with
a header reads from `NULL`. -/
theorem collectHeaders_iff (lines : List Bytes) :
    (∀ headers rest, collectHeaders lines [] = .ok (headers, rest) ↔
      ∃ fields : List Field, (∀ field ∈ fields, field.WellFormed) ∧
        headers = fields.map Field.header ∧
        (lines = fields.flatMap Field.lines ∧ rest = [] ∨
          ∃ cr, lines = fields.flatMap Field.lines ++ lineEnd cr :: rest)) ∧
    (∀ text, collectHeaders lines [] = .error (.invalidHeader text) ↔
      ∃ (fields : List Field) (cr : Bool) (rest : List Bytes),
        (∀ field ∈ fields, field.WellFormed) ∧ Bad text ∧ Printed text cr ∧
        lines = fields.flatMap Field.lines ++ (text ++ lineEnd cr) :: rest) ∧
    (collectHeaders lines [] = .error .noLastHeader ↔
      ∃ line rest, Field.Goes line ∧ lines = (line.1 ++ lineEnd line.2) :: rest) := by
  have hcollected := collected lines
  refine ⟨fun headers rest => ⟨exists_fields_of_ok, ?_⟩, fun text => ⟨fun h => ?_, ?_⟩,
    fun h => ?_, ?_⟩
  · rintro ⟨fields, hfields, rfl, ⟨rfl, rfl⟩ | ⟨cr, rfl⟩⟩
    · exact collectHeaders_fields_nil fields hfields
    · exact collectHeaders_fields_empty fields hfields cr rest
  · rw [h] at hcollected
    cases hcollected with
    | bad fields _ cr rest hfields hbad hprinted hlines =>
        exact ⟨fields, cr, rest, hfields, hbad, hprinted, hlines⟩
  · rintro ⟨fields, cr, rest, hfields, hbad, hprinted, rfl⟩
    exact collectHeaders_fields_bad fields hfields hbad hprinted rest
  · rw [h] at hcollected
    cases hcollected with
    | goes line rest hgoes hlines => exact ⟨line, rest, hgoes, hlines⟩
  · rintro ⟨line, rest, hgoes, rfl⟩
    exact collectHeaders_goes_nil hgoes

/-! ## The body -/

theorem flatten_bodyPartFrom (chunks : List Bytes) (bodyString : Bytes) (lines : List Bytes) :
    (bodyPartFrom chunks bodyString lines).flatten =
      chunks.flatten ++ (bodyString ++ lines.flatMap (· ++ [10])).dropLast := by
  induction lines generalizing chunks bodyString with
  | nil =>
      rw [bodyPartFrom, List.flatMap_nil, List.append_nil]
      split
      case isTrue h => rw [h, List.dropLast_nil, List.append_nil]
      case isFalse => rw [List.flatten_append, List.flatten_singleton]
  | cons line lines ih =>
      have hline : line ++ [10] ++ lines.flatMap (· ++ [10]) ≠ [] := by simp
      rw [bodyPartFrom, List.flatMap_cons]
      split
      · rw [ih, List.flatten_append, List.flatten_singleton, List.append_assoc,
          List.dropLast_append_of_ne_nil hline]
      · rw [ih, List.append_assoc, List.append_assoc, List.append_assoc]

theorem dropLast_flatMap_newline (lines : List Bytes) :
    (lines.flatMap (· ++ [10])).dropLast = [10].intercalate lines := by
  induction lines with
  | nil => rfl
  | cons line lines ih =>
      cases lines with
      | nil => simp
      | cons next lines =>
          have hne : (next :: lines).flatMap (· ++ [10]) ≠ ([] : Bytes) := by simp
          rw [List.flatMap_cons, List.dropLast_append_of_ne_nil hne, ih,
            List.intercalate_cons_cons]

/-- The chunks fit into packets. -/
def ChunksFit (chunks : List Bytes) : Prop :=
  ∀ chunk ∈ chunks, chunk.length ≤ Children.milterChunkSize

theorem chunksFit_append (chunks : List Bytes) (chunk : Bytes) :
    ChunksFit (chunks ++ [chunk]) ↔
      ChunksFit chunks ∧ chunk.length ≤ Children.milterChunkSize := by
  rw [ChunksFit, List.forall_mem_append, ChunksFit]
  simp

/-- The lines fit, each with its newline; the last one has none. -/
def LinesFit : List Bytes → Prop
  | [] => True
  | [line] => line.length ≤ Children.milterChunkSize
  | line :: next :: lines =>
      line.length + 1 ≤ Children.milterChunkSize ∧ LinesFit (next :: lines)

theorem chunksFit_bodyPartFrom (chunks : List Bytes) (bodyString : Bytes) (lines : List Bytes) :
    ChunksFit (bodyPartFrom chunks bodyString lines) ↔ ChunksFit chunks ∧
      (bodyString.length ≤ Children.milterChunkSize ∨
        lines = [] ∧ bodyString.length ≤ Children.milterChunkSize + 1) ∧ LinesFit lines := by
  induction lines generalizing chunks bodyString with
  | nil =>
      rw [bodyPartFrom, LinesFit]
      split
      case isTrue h => simp [h]
      case isFalse h =>
        have hpos := List.length_pos_iff.mpr h
        rw [chunksFit_append, List.length_dropLast]
        constructor
        · rintro ⟨hchunks, hbody⟩
          exact ⟨hchunks, .inr ⟨rfl, by omega⟩, trivial⟩
        · rintro ⟨hchunks, hbody, -⟩
          refine ⟨hchunks, ?_⟩
          omega
  | cons line lines ih =>
      rw [bodyPartFrom]
      have hlast : LinesFit (line :: lines) ↔
          (line.length + 1 ≤ Children.milterChunkSize ∨
            lines = [] ∧ line.length + 1 ≤ Children.milterChunkSize + 1) ∧ LinesFit lines := by
        cases lines with
        | nil =>
            simp only [LinesFit, true_and, and_true]
            omega
        | cons next lines => simp [LinesFit]
      split
      case isTrue hlong =>
        rw [ih, chunksFit_append, List.length_append, List.length_singleton, hlast]
        simp only [reduceCtorEq, false_and, or_false, and_assoc]
      case isFalse hshort =>
        rw [ih, List.length_append, List.length_append, List.length_singleton, hlast]
        have hbody : bodyString.length + line.length + 1 ≤ Children.milterChunkSize := by omega
        have hline : line.length + 1 ≤ Children.milterChunkSize := by omega
        have hold : bodyString.length ≤ Children.milterChunkSize := by omega
        simp [hbody, hline, hold]

theorem flatten_bodyPart (lines : List Bytes) :
    (bodyPart lines).flatten = [10].intercalate lines := by
  rw [bodyPart, flatten_bodyPartFrom, List.flatten_nil, List.nil_append, List.nil_append,
    dropLast_flatMap_newline]

theorem chunksFit_bodyPart (lines : List Bytes) :
    ChunksFit (bodyPart lines) ↔ LinesFit lines := by
  rw [bodyPart, chunksFit_bodyPartFrom]
  simp [ChunksFit]

end MilterManager.Tool
