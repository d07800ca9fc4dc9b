import MilterManager.Esmtp.Parser

/-!
# The grammar of envelope arguments

The strings that the parsers of `milter/core/milter-esmtp.c` take, and those on which they read
behind the NUL: a quoted local part or a domain literal that is not closed.
-/

namespace MilterManager.Esmtp

open MilterManager.Core MilterManager.Codec

/-- Characters between quotes or brackets; a backslash stands before any text character. -/
inductive IsQuoted (isEnd : UInt8 → Bool) : Bytes → Prop where
  | nil : IsQuoted isEnd []
  | plain {c : UInt8} {rest : Bytes} (hc : c ≠ 92) (hbreak : breaksQuoted isEnd c = false)
      (h : IsQuoted isEnd rest) : IsQuoted isEnd (c :: rest)
  | escaped {d : UInt8} {rest : Bytes} (hd : isText d = true) (h : IsQuoted isEnd rest) :
      IsQuoted isEnd (92 :: d :: rest)

/-- The content of a domain literal. -/
def IsLiteral : Bytes → Prop := IsQuoted fun c => c == 91 || c == 93

/-- The content of a quoted local part. -/
def IsQuotedLocal : Bytes → Prop := IsQuoted (· == 34)

/-- A domain name or an address literal. -/
def IsDomain (domain : Bytes) : Prop :=
  (∃ c rest, domain = c :: rest ∧ Ascii.isAlnum c = true ∧ ∀ d ∈ rest, isDomainText d = true) ∨
    ∃ literal, domain = 91 :: (literal ++ [93]) ∧ IsLiteral literal

/-- One or more domains with an `'@'` before and a comma between them; a comma may stand at the
end. -/
inductive IsSourceRoute : Bytes → Prop where
  | last {domain : Bytes} (h : IsDomain domain) : IsSourceRoute (64 :: domain)
  | comma {domain : Bytes} (h : IsDomain domain) : IsSourceRoute (64 :: (domain ++ [44]))
  | cons {domain route : Bytes} (h : IsDomain domain) (hroute : IsSourceRoute route) :
      IsSourceRoute (64 :: (domain ++ 44 :: route))

/-- Atoms and dots, or a quoted string. -/
def IsLocalPart (localPart : Bytes) : Prop :=
  (∀ c ∈ localPart, isLocalText c = true) ∨
    ∃ quoted, localPart = 34 :: (quoted ++ [34]) ∧ IsQuotedLocal quoted

/-- A local part and a domain. -/
def IsMailbox (mailbox : Bytes) : Prop :=
  ∃ localPart domain, mailbox = localPart ++ 64 :: domain ∧ IsLocalPart localPart ∧ IsDomain domain

/-- A text between angle brackets, and the path that is stored for it. -/
inductive IsPath (acceptPostmasterPath : Bool) : Bytes → Option Bytes → Prop where
  | null : IsPath acceptPostmasterPath [60, 62] none
  | postmaster (h : acceptPostmasterPath = true) :
      IsPath acceptPostmasterPath postmasterPath (some postmasterPath)
  | mailbox {mailbox : Bytes} (h : IsMailbox mailbox) (hroute : mailbox.head? ≠ some 64) :
      IsPath acceptPostmasterPath (60 :: (mailbox ++ [62])) (some (60 :: (mailbox ++ [62])))
  | route {route mailbox : Bytes} (hroute : IsSourceRoute route) (h : IsMailbox mailbox) :
      IsPath acceptPostmasterPath (60 :: (route ++ 58 :: (mailbox ++ [62])))
        (some (60 :: (route ++ 58 :: (mailbox ++ [62]))))

/-- A keyword and a value, if it has one. -/
def IsParameter (parameter : Bytes × Option Bytes) : Prop :=
  (∃ c rest, parameter.1 = c :: rest ∧ Ascii.isAlnum c = true ∧
    ∀ d ∈ rest, isKeywordText d = true) ∧
    ∀ value, parameter.2 = some value → ∀ c ∈ value, isValueText c = true

/-- The text of a parameter, with the blank before it. -/
def renderParameter (parameter : Bytes × Option Bytes) : Bytes :=
  32 :: (parameter.1 ++ parameter.2.elim [] (61 :: ·))

/-- The text of an argument with a path and parameters. -/
def Renders (acceptPostmasterPath : Bool) (argument : Bytes) (path : Option Bytes)
    (parameters : List (Bytes × Option Bytes)) : Prop :=
  ∃ text, argument = text ++ parameters.flatMap renderParameter ∧
    IsPath acceptPostmasterPath text path ∧ ∀ parameter ∈ parameters, IsParameter parameter

/-- The table of parameters; without any there is none. -/
def tableOf (parameters : List (Bytes × Option Bytes)) : Option Parameters :=
  parameters.foldl (fun table parameter => insertParameter table parameter.1 parameter.2) none

/-- A source route with a domain literal that is not closed. -/
inductive IsOpenRoute : Bytes → Prop where
  | literal {literal : Bytes} (h : IsLiteral literal) : IsOpenRoute (64 :: 91 :: literal)
  | cons {domain route : Bytes} (h : IsDomain domain) (hroute : IsOpenRoute route) :
      IsOpenRoute (64 :: (domain ++ 44 :: route))

/-- A mailbox with a quoted string or a domain literal that is not closed; a single bracket at the
end is no domain literal. -/
def IsOpenMailbox (mailbox : Bytes) : Prop :=
  (∃ quoted, mailbox = 34 :: quoted ∧ IsQuotedLocal quoted) ∨
    ∃ localPart literal, mailbox = localPart ++ 64 :: 91 :: literal ∧ IsLocalPart localPart ∧
      literal ≠ [] ∧ IsLiteral literal

/-- An argument that ends within quotes or brackets. -/
def IsOpen (argument : Bytes) : Prop :=
  (∃ route, argument = 60 :: route ∧ IsOpenRoute route) ∨
    (∃ mailbox, argument = 60 :: mailbox ∧ mailbox.head? ≠ some 64 ∧ IsOpenMailbox mailbox) ∨
    ∃ route mailbox, argument = 60 :: (route ++ 58 :: mailbox) ∧ IsSourceRoute route ∧
      IsOpenMailbox mailbox

/-- An argument of the grammar is parsed to its path and its parameters, and on any other argument
the parser fails with an error. -/
def Exact (acceptPostmasterPath : Bool) (argument : CString) : Prop :=
  (∀ path parameters, Renders acceptPostmasterPath argument.bytes path parameters →
    parseArgument acceptPostmasterPath (some argument) = .ok (path, tableOf parameters)) ∧
  ((∀ path parameters, ¬Renders acceptPostmasterPath argument.bytes path parameters) →
    ∃ message position, parseArgument acceptPostmasterPath (some argument) =
      .error (.invalid message position))

/-- What a parser says of a text: a position behind a part of the text, an argument that ends too
early, or an error. -/
def Tells {α : Type} (accepts : α → Prop) (isOpen : Prop) : Except Stop α → Prop
  | .ok rest => accepts rest
  | .error .overrun => isOpen
  | .error (.invalid _ _) => True
  | .error .argumentMissing => False

section Tells

variable {α β : Type} {accepts : α → Prop} {accepts' : β → Prop} {isOpen isOpen' : Prop}

theorem Tells.bind {result : Except Stop α} {next : α → Except Stop β}
    (h : Tells accepts isOpen result) (hopen : isOpen → isOpen')
    (hnext : ∀ a, accepts a → Tells accepts' isOpen' (next a)) :
    Tells accepts' isOpen' (result >>= next) := by
  cases result with
  | ok a => exact hnext a h
  | error stop =>
      cases stop with
      | argumentMissing => exact h
      | invalid message position => trivial
      | overrun => exact hopen h

theorem Tells.mono {accepts' : α → Prop} {result : Except Stop α}
    (h : Tells accepts isOpen result) (hopen : isOpen → isOpen')
    (haccepts : ∀ a, accepts a → accepts' a) : Tells accepts' isOpen' result := by
  cases result with
  | ok a => exact haccepts a h
  | error stop =>
      cases stop with
      | argumentMissing => exact h
      | invalid message position => trivial
      | overrun => exact hopen h

end Tells

section Quoted

variable {isEnd : UInt8 → Bool} {terminator : UInt8} {quotedCharacter missing : EsmtpMessage}

theorem parseQuoted_cons {c : UInt8} (hc : c ≠ 92) (rest : Bytes) :
    parseQuoted isEnd terminator quotedCharacter missing (c :: rest) =
      if breaksQuoted isEnd c = true then
        if c = terminator then .ok rest else .error (.invalid missing (c :: rest))
      else parseQuoted isEnd terminator quotedCharacter missing rest := by
  rw [parseQuoted.eq_def]
  exact if_neg hc

theorem parseQuoted_backslash (d : UInt8) (rest : Bytes) :
    parseQuoted isEnd terminator quotedCharacter missing (92 :: d :: rest) =
      if isText d = true then parseQuoted isEnd terminator quotedCharacter missing rest
      else .error (.invalid quotedCharacter (d :: rest)) := by
  rw [parseQuoted.eq_def]
  rfl

theorem parseQuoted_of_isQuoted (hend : isEnd terminator = true) (hne : terminator ≠ 92)
    {quoted : Bytes} (h : IsQuoted isEnd quoted) (rest : Bytes) :
    parseQuoted isEnd terminator quotedCharacter missing (quoted ++ terminator :: rest) =
      .ok rest := by
  induction h with
  | nil =>
      have hbreak : breaksQuoted isEnd terminator = true := by
        rw [breaksQuoted, hend, Bool.true_or, Bool.true_or]
      rw [List.nil_append, parseQuoted_cons hne, if_pos hbreak, if_pos rfl]
  | plain hc hbreak h ih =>
      rw [List.cons_append, parseQuoted_cons hc, hbreak, if_neg Bool.false_ne_true]
      exact ih
  | escaped hd h ih =>
      rw [List.cons_append, List.cons_append, parseQuoted_backslash, if_pos hd]
      exact ih

theorem parseQuoted_of_open {text : Bytes} (h : IsQuoted isEnd text) :
    parseQuoted isEnd terminator quotedCharacter missing text = .error .overrun := by
  induction h with
  | nil => rw [parseQuoted]
  | plain hc hbreak h ih =>
      rw [parseQuoted_cons hc, hbreak, if_neg Bool.false_ne_true]
      exact ih
  | escaped hd h ih =>
      rw [parseQuoted_backslash, if_pos hd]
      exact ih

theorem parseQuoted_tells (text : Bytes) :
    Tells (fun rest => ∃ quoted, text = quoted ++ terminator :: rest ∧ IsQuoted isEnd quoted)
      (IsQuoted isEnd text) (parseQuoted isEnd terminator quotedCharacter missing text) := by
  fun_induction parseQuoted isEnd terminator quotedCharacter missing text with
  | case1 => exact .nil
  | case2 => trivial
  | case3 d text hd ih =>
      apply ih.mono (.escaped hd)
      rintro rest ⟨quoted, rfl, h⟩
      exact ⟨92 :: d :: quoted, rfl, .escaped hd h⟩
  | case4 => trivial
  | case5 text hne hend => exact ⟨[], rfl, .nil⟩
  | case6 => trivial
  | case7 c text hne hbreak ih =>
      have hplain : breaksQuoted isEnd c = false := Bool.eq_false_iff.mpr hbreak
      apply ih.mono (.plain hne hplain)
      rintro rest ⟨quoted, rfl, h⟩
      exact ⟨c :: quoted, rfl, .plain hne hplain h⟩

end Quoted

section Passing

variable {p : UInt8 → Bool}

/-- What a loop passes over is all of a text up to a character that it does not pass. -/
theorem dropWhile_passed {text rest : Bytes} (htext : ∀ c ∈ text, p c = true)
    (hrest : ∀ c, rest.head? = some c → p c = false) :
    (text ++ rest).dropWhile p = rest ∧ (text ++ rest).takeWhile p = text := by
  rw [List.dropWhile_append_of_pos htext, List.takeWhile_append_of_pos htext]
  cases rest with
  | nil => simp
  | cons c rest =>
      have hc : ¬p c = true := Bool.eq_false_iff.mp (hrest c rfl)
      rw [List.dropWhile_cons_of_neg hc, List.takeWhile_cons_of_neg hc, List.append_nil]
      exact ⟨rfl, rfl⟩

theorem passed_dropWhile (text : Bytes) :
    ∃ passed, text = passed ++ text.dropWhile p ∧ ∀ c ∈ passed, p c = true :=
  ⟨text.takeWhile p, List.takeWhile_append_dropWhile.symm, fun _ hc => List.mem_takeWhile_imp hc⟩

end Passing

section Domain

theorem parseDomain_of_isDomain {domain rest : Bytes} (h : IsDomain domain)
    (hrest : ∀ c, rest.head? = some c → isDomainText c = false) :
    parseDomain (domain ++ rest) = .ok rest := by
  rcases h with ⟨c, labels, rfl, hc, hlabels⟩ | ⟨literal, rfl, h⟩
  · have hbracket : c ≠ 91 := by
      rintro rfl
      cases hc
    rw [List.cons_append, parseDomain, if_neg hbracket, if_pos hc,
      (dropWhile_passed hlabels hrest).1]
  · rw [List.cons_append, List.append_assoc, parseDomain, if_pos rfl]
    exact parseQuoted_of_isQuoted rfl (by decide) h rest

theorem parseDomain_of_open {literal : Bytes} (h : IsLiteral literal) :
    parseDomain (91 :: literal) = .error .overrun := by
  rw [parseDomain, if_pos rfl]
  exact parseQuoted_of_open h

theorem parseDomain_tells (text : Bytes) :
    Tells (fun rest => ∃ domain, text = domain ++ rest ∧ IsDomain domain)
      (∃ literal, text = 91 :: literal ∧ IsLiteral literal) (parseDomain text) := by
  cases text with
  | nil => trivial
  | cons c text =>
      rw [parseDomain]
      by_cases hbracket : c = 91
      · rw [if_pos hbracket, hbracket, parseDomainLiteral]
        apply (parseQuoted_tells text).mono
        · intro h
          exact ⟨text, rfl, h⟩
        · rintro rest ⟨literal, rfl, h⟩
          exact ⟨91 :: (literal ++ [93]), by simp, .inr ⟨literal, rfl, h⟩⟩
      · rw [if_neg hbracket]
        by_cases hc : Ascii.isAlnum c = true
        · rw [if_pos hc]
          obtain ⟨labels, htext, hlabels⟩ := passed_dropWhile (p := isDomainText) text
          exact ⟨c :: labels, congrArg (c :: ·) htext, .inl ⟨c, labels, rfl, hc, hlabels⟩⟩
        · rw [if_neg hc]
          trivial

end Domain

section SourceRoute

variable {domain rest : Bytes}

theorem parseSourceRoute_of_ne {text : Bytes} (h : text.head? ≠ some 64) :
    parseSourceRoute text = .ok text := by
  rw [parseSourceRoute.eq_def]
  split
  · exact absurd rfl h
  · rfl

theorem parseSourceRoute_error {stop : Stop} (h : parseDomain domain = .error stop) :
    parseSourceRoute (64 :: domain) = .error stop := by
  rw [parseSourceRoute]
  split
  · next heq => rw [← h, heq]
  · next heq => cases h.symm.trans heq
  · next heq => cases h.symm.trans heq

theorem parseSourceRoute_comma (h : parseDomain domain = .ok (44 :: rest)) :
    parseSourceRoute (64 :: domain) = parseSourceRoute rest := by
  rw [parseSourceRoute]
  split
  · next heq => cases h.symm.trans heq
  · next heq =>
      cases h.symm.trans heq
      rfl
  · next hne heq =>
      cases h.symm.trans heq
      exact absurd rfl (hne rest)

theorem parseSourceRoute_end (h : parseDomain domain = .ok rest) (hcomma : rest.head? ≠ some 44) :
    parseSourceRoute (64 :: domain) = .ok rest := by
  rw [parseSourceRoute]
  split
  · next heq => cases h.symm.trans heq
  · next heq =>
      cases h.symm.trans heq
      exact absurd rfl hcomma
  · next hne heq =>
      cases h.symm.trans heq
      rfl

theorem parseSourceRoute_of_isSourceRoute {route : Bytes} (h : IsSourceRoute route)
    (rest : Bytes) : parseSourceRoute (route ++ 58 :: rest) = .ok (58 :: rest) := by
  induction h with
  | last h =>
      apply parseSourceRoute_end
      · exact parseDomain_of_isDomain h (by rintro c ⟨⟩; rfl)
      · simp
  | comma h =>
      rw [List.cons_append, List.append_assoc, parseSourceRoute_comma]
      · exact parseSourceRoute_of_ne (by simp)
      · exact parseDomain_of_isDomain h (by rintro c ⟨⟩; rfl)
  | cons h hroute ih =>
      rw [List.cons_append, List.append_assoc, parseSourceRoute_comma]
      · exact ih
      · exact parseDomain_of_isDomain h (by rintro c ⟨⟩; rfl)

theorem parseSourceRoute_of_open {route : Bytes} (h : IsOpenRoute route) :
    parseSourceRoute route = .error .overrun := by
  induction h with
  | literal h => exact parseSourceRoute_error (parseDomain_of_open h)
  | cons h hroute ih =>
      rw [parseSourceRoute_comma]
      · exact ih
      · exact parseDomain_of_isDomain h (by rintro c ⟨⟩; rfl)

theorem parseSourceRoute_tells (text : Bytes) :
    Tells (fun rest => text.head? ≠ some 64 ∧ rest = text ∨
        ∃ route, text = route ++ rest ∧ IsSourceRoute route)
      (IsOpenRoute text) (parseSourceRoute text) := by
  induction hlength : text.length using Nat.strong_induction_on generalizing text with
  | _ n ih =>
      by_cases hat : text.head? = some 64
      · obtain ⟨domain, rfl⟩ := List.head?_eq_some_iff.mp hat
        have htells := parseDomain_tells domain
        cases hdomain : parseDomain domain with
        | error stop =>
            rw [hdomain] at htells
            rw [parseSourceRoute_error hdomain]
            cases stop with
            | argumentMissing => exact htells
            | invalid _ _ => trivial
            | overrun =>
                obtain ⟨literal, rfl, h⟩ := htells
                exact .literal h
        | ok rest =>
            have hlt := length_parseDomain hdomain
            rw [hdomain] at htells
            obtain ⟨name, rfl, hname⟩ := htells
            by_cases hcomma : rest.head? = some 44
            · obtain ⟨next, rfl⟩ := List.head?_eq_some_iff.mp hcomma
              rw [parseSourceRoute_comma hdomain]
              have hnext := ih next.length (by simp only [List.length_cons] at *; omega) next rfl
              apply hnext.mono (.cons hname)
              rintro rest (⟨-, rfl⟩ | ⟨route, rfl, hroute⟩)
              · exact .inr ⟨64 :: (name ++ [44]), by simp, .comma hname⟩
              · exact .inr ⟨64 :: (name ++ 44 :: route), by simp, .cons hname hroute⟩
            · rw [parseSourceRoute_end hdomain hcomma]
              exact .inr ⟨64 :: name, rfl, .last hname⟩
      · rw [parseSourceRoute_of_ne hat]
        exact .inl ⟨hat, rfl⟩

end SourceRoute

section Mailbox

theorem parseLocalPart_of_ne {text : Bytes} (h : text.head? ≠ some 34) :
    parseLocalPart text = .ok (text.dropWhile isLocalText) := by
  rw [parseLocalPart.eq_def]
  split
  · exact absurd rfl h
  · rfl

theorem parseLocalPart_of_isLocalPart {localPart : Bytes} (h : IsLocalPart localPart)
    (rest : Bytes) : parseLocalPart (localPart ++ 64 :: rest) = .ok (64 :: rest) := by
  rcases h with h | ⟨quoted, rfl, h⟩
  · have hquote : (localPart ++ 64 :: rest).head? ≠ some 34 := by
      cases localPart with
      | nil => simp
      | cons c localPart =>
          have hc := h c List.mem_cons_self
          rw [List.cons_append, List.head?_cons]
          rintro ⟨⟩
          cases hc
    rw [parseLocalPart_of_ne hquote, (dropWhile_passed h (by rintro c ⟨⟩; rfl)).1]
  · rw [List.cons_append, List.append_assoc]
    exact parseQuoted_of_isQuoted rfl (by decide) h (64 :: rest)

theorem parseLocalPart_tells (text : Bytes) :
    Tells (fun rest => ∃ localPart, text = localPart ++ rest ∧ IsLocalPart localPart)
      (∃ quoted, text = 34 :: quoted ∧ IsQuotedLocal quoted) (parseLocalPart text) := by
  by_cases hquote : text.head? = some 34
  · obtain ⟨text, rfl⟩ := List.head?_eq_some_iff.mp hquote
    rw [parseLocalPart]
    apply (parseQuoted_tells text).mono
    · intro h
      exact ⟨text, rfl, h⟩
    · rintro rest ⟨quoted, rfl, h⟩
      exact ⟨34 :: (quoted ++ [34]), by simp, .inr ⟨quoted, rfl, h⟩⟩
  · rw [parseLocalPart_of_ne hquote]
    obtain ⟨atoms, htext, hatoms⟩ := @passed_dropWhile isLocalText text
    exact ⟨atoms, htext, .inl hatoms⟩

theorem parseMailbox_of_local {localPart domain : Bytes} (h : IsLocalPart localPart) :
    parseMailbox (localPart ++ 64 :: domain) =
      if domain.length ≤ 1 then .error (.invalid .mailboxDomain domain)
      else parseDomain domain := by
  rw [parseMailbox, parseLocalPart_of_isLocalPart h]
  rfl

theorem isDomain_ne_nil {domain : Bytes} (h : IsDomain domain) : domain ≠ [] := by
  rcases h with ⟨c, rest, rfl, -⟩ | ⟨literal, rfl, -⟩
  · exact List.cons_ne_nil _ _
  · exact List.cons_ne_nil _ _

theorem parseMailbox_of_isMailbox {mailbox : Bytes} (h : IsMailbox mailbox) (rest : Bytes) :
    parseMailbox (mailbox ++ 62 :: rest) = .ok (62 :: rest) := by
  obtain ⟨localPart, domain, rfl, hlocal, hdomain⟩ := h
  have hlong : ¬(domain ++ 62 :: rest).length ≤ 1 := by
    have hpos := List.length_pos_of_ne_nil (isDomain_ne_nil hdomain)
    rw [List.length_append, List.length_cons]
    omega
  rw [List.append_assoc, List.cons_append, parseMailbox_of_local hlocal, if_neg hlong]
  exact parseDomain_of_isDomain hdomain (by rintro c ⟨⟩; rfl)

theorem parseMailbox_of_open {mailbox : Bytes} (h : IsOpenMailbox mailbox) :
    parseMailbox mailbox = .error .overrun := by
  rcases h with ⟨quoted, rfl, h⟩ | ⟨localPart, literal, rfl, hlocal, hne, h⟩
  · have hlocal : parseLocalPart (34 :: quoted) = .error .overrun := parseQuoted_of_open h
    rw [parseMailbox, hlocal]
    rfl
  · have hlong : ¬(91 :: literal).length ≤ 1 := by
      have hpos := List.length_pos_of_ne_nil hne
      rw [List.length_cons]
      omega
    rw [parseMailbox_of_local hlocal, if_neg hlong]
    exact parseDomain_of_open h

theorem parseMailbox_tells (text : Bytes) :
    Tells (fun rest => ∃ mailbox, text = mailbox ++ rest ∧ IsMailbox mailbox)
      (IsOpenMailbox text) (parseMailbox text) := by
  rw [parseMailbox]
  apply (parseLocalPart_tells text).bind .inl
  rintro rest ⟨localPart, rfl, h⟩
  split
  · next domain =>
      by_cases hshort : domain.length ≤ 1
      · rw [if_pos hshort]
        trivial
      · rw [if_neg hshort]
        apply (parseDomain_tells domain).mono
        · rintro ⟨literal, rfl, hliteral⟩
          refine .inr ⟨localPart, literal, rfl, h, ?_, hliteral⟩
          rintro rfl
          exact hshort (Nat.le_refl 1)
        · rintro rest ⟨name, rfl, hname⟩
          exact ⟨localPart ++ 64 :: name, by simp, localPart, name, rfl, h, hname⟩
  · trivial

end Mailbox

section Path

variable {accept : Bool}

theorem head_mailbox_ne {localPart : Bytes} (h : IsLocalPart localPart) (rest : Bytes) :
    (localPart ++ 64 :: rest).head? ≠ some 62 := by
  rcases h with h | ⟨quoted, rfl, -⟩
  · cases localPart with
    | nil => simp
    | cons c localPart =>
        have hc := h c List.mem_cons_self
        rw [List.cons_append, List.head?_cons]
        rintro ⟨⟩
        cases hc
  · simp

/-- A path with a mailbox does not begin like the path of the postmaster. -/
theorem not_postmaster_of_local {localPart : Bytes} (h : IsLocalPart localPart) (rest : Bytes) :
    ¬postmasterPath <+: 60 :: (localPart ++ 64 :: rest) := by
  rintro ⟨after, heq⟩
  rcases h with h | ⟨quoted, rfl, -⟩
  · have hname : ∀ c ∈ ([80, 111, 115, 116, 109, 97, 115, 116, 101, 114] : Bytes),
        isLocalText c = true := List.all_eq_true.mp rfl
    have hpost := (@dropWhile_passed isLocalText _ (62 :: after) hname (by rintro c ⟨⟩; rfl)).1
    have hlocal := (@dropWhile_passed isLocalText _ (64 :: rest) h (by rintro c ⟨⟩; rfl)).1
    have htail := (List.cons.inj heq).2
    rw [← htail] at hlocal
    have hsame := hpost.symm.trans hlocal
    cases (List.cons.inj hsame).1
  · have hhead := congrArg (fun text => text.tail.head?) heq
    simp [postmasterPath] at hhead

theorem not_postmaster_of_route (route : Bytes) : ¬postmasterPath <+: 60 :: 64 :: route := by
  rintro ⟨after, heq⟩
  have hhead := congrArg (fun text => text.tail.head?) heq
  simp [postmasterPath] at hhead

/-- The last branch of `parse_path`. -/
theorem parsePath_eq {text : Bytes} (hnull : text.head? ≠ some 62)
    (hpostmaster : ¬(accept = true ∧ postmasterPath <+: 60 :: text)) :
    parsePath accept (60 :: text) = (do
      let route ← parseSourceRoute text
      let mailbox ← parseSeparator text route
      let rest ← parseMailbox mailbox
      parsePathEnd (60 :: text) rest) := by
  rw [parsePath, List.tail_cons, if_neg hnull, if_neg hpostmaster]

theorem parsePathEnd_of_append (path rest : Bytes) :
    parsePathEnd (path ++ 62 :: rest) (62 :: rest) = .ok (some (path ++ [62]), rest) := by
  have hlength : (path ++ 62 :: rest).length - rest.length = (path ++ [62]).length := by
    simp only [List.length_append, List.length_cons, List.length_nil]
    omega
  have hsplit : path ++ 62 :: rest = (path ++ [62]) ++ rest := by simp
  rw [parsePathEnd, hlength, hsplit, List.take_left' rfl]

theorem parseSeparator_none (text : Bytes) : parseSeparator text text = .ok text := by
  unfold parseSeparator
  exact if_neg (Nat.lt_irrefl _)

theorem parseSeparator_colon {text mailbox : Bytes} (h : mailbox.length + 1 < text.length) :
    parseSeparator text (58 :: mailbox) = .ok mailbox := by
  rw [parseSeparator, if_pos (by rwa [List.length_cons])]

theorem isSourceRoute_head {route : Bytes} (h : IsSourceRoute route) :
    ∃ rest, route = 64 :: rest := by
  cases h with
  | last _ => exact ⟨_, rfl⟩
  | comma _ => exact ⟨_, rfl⟩
  | cons _ _ => exact ⟨_, rfl⟩

theorem parsePath_of_isPath {text : Bytes} {path : Option Bytes} (h : IsPath accept text path)
    (rest : Bytes) : parsePath accept (text ++ rest) = .ok (path, rest) := by
  cases h with
  | null => rfl
  | postmaster haccept =>
      rw [parsePath, if_neg (by simp [postmasterPath]),
        if_pos ⟨haccept, List.prefix_append _ _⟩, List.drop_left' rfl]
  | @mailbox mailbox h hroute =>
      have hsplit : 60 :: (mailbox ++ [62]) ++ rest = 60 :: (mailbox ++ 62 :: rest) := by simp
      have hmailbox := parseMailbox_of_isMailbox h rest
      obtain ⟨localPart, domain, rfl, hlocal, hdomain⟩ := h
      have hhead : (localPart ++ 64 :: domain ++ 62 :: rest).head? ≠ some 64 := by
        rw [List.head?_append_of_ne_nil _ (by simp)]
        exact hroute
      have hassoc : localPart ++ 64 :: domain ++ 62 :: rest =
          localPart ++ 64 :: (domain ++ 62 :: rest) := by simp
      have hend := parsePathEnd_of_append (60 :: (localPart ++ 64 :: domain)) rest
      rw [hsplit, parsePath_eq (by rw [hassoc]; exact head_mailbox_ne hlocal _)
        (fun h => not_postmaster_of_local hlocal _ (hassoc ▸ h.2)),
        parseSourceRoute_of_ne hhead]
      simp only [bind, Except.bind, parseSeparator_none, hmailbox]
      exact hend
  | @route route mailbox hroute h =>
      have hsplit : 60 :: (route ++ 58 :: (mailbox ++ [62])) ++ rest =
          60 :: (route ++ 58 :: (mailbox ++ 62 :: rest)) := by simp
      have hparse := parseSourceRoute_of_isSourceRoute hroute (mailbox ++ 62 :: rest)
      have hend := parsePathEnd_of_append (60 :: (route ++ 58 :: mailbox)) rest
      rw [List.cons_append, List.append_assoc, List.cons_append] at hend
      obtain ⟨domains, rfl⟩ := isSourceRoute_head hroute
      have hlength : (mailbox ++ 62 :: rest).length + 1 <
          (64 :: domains ++ 58 :: (mailbox ++ 62 :: rest)).length := by
        simp only [List.length_append, List.length_cons]
        omega
      have hpath := @parsePath_eq accept (64 :: domains ++ 58 :: (mailbox ++ 62 :: rest))
        (by simp) fun h => not_postmaster_of_route _ h.2
      rw [hsplit, hpath, hparse]
      simp only [bind, Except.bind, parseSeparator_colon hlength, parseMailbox_of_isMailbox h]
      rw [hend]
      simp

theorem parsePath_of_open {argument : Bytes} (h : IsOpen argument) :
    parsePath accept argument = .error .overrun := by
  rcases h with ⟨route, rfl, h⟩ | ⟨mailbox, rfl, hroute, h⟩ | ⟨route, mailbox, rfl, hroute, h⟩
  · have hparse := parseSourceRoute_of_open h
    obtain ⟨rest, rfl⟩ : ∃ rest, route = 64 :: rest := by
      cases h with
      | literal _ => exact ⟨_, rfl⟩
      | cons _ _ => exact ⟨_, rfl⟩
    rw [parsePath_eq (by simp) (fun h => not_postmaster_of_route _ h.2), hparse]
    rfl
  · have hparse := parseMailbox_of_open h
    have hnull : mailbox.head? ≠ some 62 ∧ ¬postmasterPath <+: 60 :: mailbox := by
      rcases h with ⟨quoted, rfl, -⟩ | ⟨localPart, literal, rfl, hlocal, -⟩
      · constructor
        · simp
        · rintro ⟨after, heq⟩
          have hhead := congrArg (fun text => text.tail.head?) heq
          simp [postmasterPath] at hhead
      · exact ⟨head_mailbox_ne hlocal _, not_postmaster_of_local hlocal _⟩
    rw [parsePath_eq hnull.1 (fun h => hnull.2 h.2), parseSourceRoute_of_ne hroute]
    simp only [bind, Except.bind, parseSeparator_none, hparse]
  · have hparse := parseSourceRoute_of_isSourceRoute hroute mailbox
    obtain ⟨domains, rfl⟩ := isSourceRoute_head hroute
    have hlength : mailbox.length + 1 < (64 :: domains ++ 58 :: mailbox).length := by
      simp only [List.length_append, List.length_cons]
      omega
    have hpath := @parsePath_eq accept (64 :: domains ++ 58 :: mailbox) (by simp)
      fun h => not_postmaster_of_route _ h.2
    rw [hpath, hparse]
    simp only [bind, Except.bind, parseSeparator_colon hlength, parseMailbox_of_open h]

theorem parsePathEnd_tells (path rest : Bytes) :
    Tells (fun result => path ++ rest = path ++ [62] ++ result.2 ∧
        result.1 = some (path ++ [62])) False (parsePathEnd (path ++ rest) rest) := by
  by_cases hend : rest.head? = some 62
  · obtain ⟨rest, rfl⟩ := List.head?_eq_some_iff.mp hend
    rw [parsePathEnd_of_append]
    exact ⟨by simp, rfl⟩
  · unfold parsePathEnd
    split
    · exact absurd rfl hend
    · trivial

theorem parsePath_tells (text : Bytes) :
    Tells (fun result => ∃ path, 60 :: text = path ++ result.2 ∧ IsPath accept path result.1)
      (IsOpen (60 :: text)) (parsePath accept (60 :: text)) := by
  by_cases hnull : text.head? = some 62
  · obtain ⟨rest, rfl⟩ := List.head?_eq_some_iff.mp hnull
    exact ⟨[60, 62], rfl, .null⟩
  by_cases hpostmaster : accept = true ∧ postmasterPath <+: 60 :: text
  · obtain ⟨haccept, after, hafter⟩ := hpostmaster
    rw [← hafter, parsePath_of_isPath (.postmaster haccept)]
    exact ⟨postmasterPath, rfl, .postmaster haccept⟩
  rw [parsePath_eq hnull hpostmaster]
  apply (parseSourceRoute_tells text).bind
  · intro h
    exact .inl ⟨text, rfl, h⟩
  · rintro behind (⟨hat, rfl⟩ | ⟨route, rfl, hroute⟩)
    · rw [parseSeparator_none]
      apply (parseMailbox_tells behind).bind
      · intro h
        exact .inr (.inl ⟨behind, rfl, hat, h⟩)
      · rintro rest ⟨mailbox, rfl, h⟩
        apply (parsePathEnd_tells (60 :: mailbox) rest).mono False.elim
        rintro ⟨path, after⟩ ⟨hsplit, rfl⟩
        refine ⟨_, hsplit, .mailbox h ?_⟩
        obtain ⟨localPart, domain, rfl, -⟩ := h
        rwa [List.head?_append_of_ne_nil _ (by simp)] at hat
    · obtain ⟨domains, rfl⟩ := isSourceRoute_head hroute
      have hshort : behind.length < (64 :: domains ++ behind).length := by
        simp only [List.length_append, List.length_cons]
        omega
      rw [parseSeparator.eq_def, if_pos hshort]
      split
      · next text =>
          apply (parseMailbox_tells text).bind
          · intro h
            exact .inr (.inr ⟨_, text, rfl, hroute, h⟩)
          · rintro rest ⟨mailbox, rfl, h⟩
            have hend := parsePathEnd_tells (60 :: (64 :: domains ++ 58 :: mailbox)) rest
            have hassoc : 60 :: (64 :: domains ++ 58 :: mailbox) ++ rest =
                60 :: (64 :: domains ++ 58 :: (mailbox ++ rest)) := by simp
            have hpath : 60 :: (64 :: domains ++ 58 :: mailbox) ++ [62] =
                60 :: (64 :: domains ++ 58 :: (mailbox ++ [62])) := by simp
            rw [hassoc, hpath] at hend
            apply hend.mono False.elim
            rintro ⟨path, after⟩ ⟨hsplit, rfl⟩
            exact ⟨_, hsplit, .route hroute h⟩
      · trivial

end Path

section ParameterList

theorem parseParameters_end {table : Option Parameters} {text : Bytes}
    (h : text.head? ≠ some 32) : parseParameters table text = .ok (table, text) := by
  rw [parseParameters.eq_def]
  split
  · exact absurd rfl h
  · exact absurd rfl h
  · rfl

theorem parseParameters_bare {table : Option Parameters} {c : UInt8} {text rest : Bytes}
    (hc : Ascii.isAlnum c = true) (h : text.dropWhile isKeywordText = rest)
    (hvalue : rest.head? ≠ some 61) :
    parseParameters table (32 :: c :: text) =
      parseParameters (insertParameter table (c :: text.takeWhile isKeywordText) none) rest := by
  rw [parseParameters, hc, Bool.not_true, if_neg Bool.false_ne_true]
  split
  · next heq =>
      rw [← h, heq] at hvalue
      exact absurd rfl hvalue
  · rw [h]

theorem parseParameters_value {table : Option Parameters} {c : UInt8} {text value : Bytes}
    (hc : Ascii.isAlnum c = true) (h : text.dropWhile isKeywordText = 61 :: value) :
    parseParameters table (32 :: c :: text) =
      parseParameters
        (insertParameter table (c :: text.takeWhile isKeywordText)
          (some (value.takeWhile isValueText)))
        (value.dropWhile isValueText) := by
  rw [parseParameters, hc, Bool.not_true, if_neg Bool.false_ne_true]
  split
  · next heq =>
      rw [h] at heq
      rw [(List.cons.inj heq).2]
  · next hne => exact absurd h (hne value)

/-- The text of a parameter ends where the next begins. -/
theorem head_render (parameters : List (Bytes × Option Bytes)) :
    ∀ c, (parameters.flatMap renderParameter).head? = some c → c = 32 := by
  cases parameters with
  | nil => simp
  | cons parameter parameters =>
      intro c hc
      exact (Option.some.inj hc).symm

theorem parseParameters_cons {parameter : Bytes × Option Bytes} (h : IsParameter parameter)
    {table : Option Parameters} {rest : Bytes} (hrest : ∀ c, rest.head? = some c → c = 32) :
    parseParameters table (renderParameter parameter ++ rest) =
      parseParameters (insertParameter table parameter.1 parameter.2) rest := by
  obtain ⟨keyword, value⟩ := parameter
  obtain ⟨⟨c, letters, rfl, hc, hletters⟩, hvalue⟩ := h
  cases value with
  | none =>
      have hpassed := dropWhile_passed hletters fun d hd => by
        rw [hrest d hd]
        rfl
      have hne : rest.head? ≠ some 61 := by
        intro hd
        cases hrest 61 hd
      rw [renderParameter, Option.elim_none, List.append_nil, List.cons_append, List.cons_append,
        parseParameters_bare hc hpassed.1 hne, hpassed.2]
  | some value =>
      have hpassed := @dropWhile_passed isKeywordText letters (61 :: (value ++ rest)) hletters
        (by rintro d ⟨⟩; rfl)
      have hpassed' := dropWhile_passed (hvalue value rfl) fun d hd => by
        rw [hrest d hd]
        rfl
      have htext : renderParameter (c :: letters, some value) ++ rest =
          32 :: c :: (letters ++ 61 :: (value ++ rest)) := by simp [renderParameter]
      rw [htext, parseParameters_value hc hpassed.1, hpassed.2, hpassed'.1, hpassed'.2]

theorem parseParameters_render (parameters : List (Bytes × Option Bytes))
    (h : ∀ parameter ∈ parameters, IsParameter parameter) (table : Option Parameters) :
    parseParameters table (parameters.flatMap renderParameter) =
      .ok (parameters.foldl (fun table parameter =>
        insertParameter table parameter.1 parameter.2) table, []) := by
  induction parameters generalizing table with
  | nil => exact parseParameters_end (by simp)
  | cons parameter parameters ih =>
      rw [List.forall_mem_cons] at h
      rw [List.flatMap_cons, parseParameters_cons h.1 (head_render parameters), ih h.2,
        List.foldl_cons]

theorem parseParameters_tells (table : Option Parameters) (text : Bytes) :
    Tells (fun result => ∃ parameters : List (Bytes × Option Bytes),
        text = parameters.flatMap renderParameter ++ result.2 ∧
          ∀ parameter ∈ parameters, IsParameter parameter)
      False (parseParameters table text) := by
  induction hlength : text.length using Nat.strong_induction_on generalizing text table with
  | _ n ih =>
      -- A parameter is put in front of those that are found behind it.
      have hcons {parameter : Bytes × Option Bytes} {rest : Bytes} (h : IsParameter parameter)
          (htext : text = renderParameter parameter ++ rest) (table : Option Parameters) :
          Tells (fun result => ∃ parameters : List (Bytes × Option Bytes),
              text = parameters.flatMap renderParameter ++ result.2 ∧
                ∀ parameter ∈ parameters, IsParameter parameter)
            False (parseParameters table rest) := by
        have hshort : rest.length < n := by
          rw [← hlength, htext, renderParameter, List.cons_append, List.length_cons,
            List.length_append]
          omega
        apply (ih rest.length hshort table rest rfl).mono id
        rintro result ⟨parameters, hrest, hall⟩
        refine ⟨parameter :: parameters, ?_, List.forall_mem_cons.mpr ⟨h, hall⟩⟩
        rw [htext, hrest, List.flatMap_cons, List.append_assoc]
      by_cases hblank : text.head? = some 32
      · obtain ⟨text, rfl⟩ := List.head?_eq_some_iff.mp hblank
        cases text with
        | nil =>
            rw [parseParameters]
            trivial
        | cons c text =>
            by_cases hc : Ascii.isAlnum c = true
            · have hsplit := @List.takeWhile_append_dropWhile _ isKeywordText text
              have hletters (d : UInt8) (hd : d ∈ text.takeWhile isKeywordText) :
                  isKeywordText d = true := List.mem_takeWhile_imp hd
              by_cases hvalue : (text.dropWhile isKeywordText).head? = some 61
              · obtain ⟨value, hdrop⟩ := List.head?_eq_some_iff.mp hvalue
                have hsplit' := @List.takeWhile_append_dropWhile _ isValueText value
                have h : IsParameter
                    (c :: text.takeWhile isKeywordText, some (value.takeWhile isValueText)) := by
                  refine ⟨⟨c, text.takeWhile isKeywordText, rfl, hc, hletters⟩, ?_⟩
                  rintro _ ⟨⟩ d hd
                  exact List.mem_takeWhile_imp hd
                rw [parseParameters_value hc hdrop]
                apply hcons h
                rw [hdrop] at hsplit
                simp [renderParameter, hsplit, hsplit']
              · have h : IsParameter (c :: text.takeWhile isKeywordText, none) := by
                  refine ⟨⟨c, text.takeWhile isKeywordText, rfl, hc, hletters⟩, ?_⟩
                  rintro _ ⟨⟩
                rw [parseParameters_bare hc rfl hvalue]
                apply hcons h
                simp [renderParameter, hsplit]
            · rw [parseParameters, Bool.eq_false_iff.mpr hc]
              trivial
      · rw [parseParameters_end hblank]
        exact ⟨[], rfl, by simp⟩

end ParameterList

section Argument

variable {accept : Bool} {argument : CString}

theorem isPath_head {text : Bytes} {path : Option Bytes} (h : IsPath accept text path) :
    ∃ rest, text = 60 :: rest := by
  cases h with
  | null => exact ⟨_, rfl⟩
  | postmaster _ => exact ⟨_, rfl⟩
  | mailbox _ _ => exact ⟨_, rfl⟩
  | route _ _ => exact ⟨_, rfl⟩

theorem isOpen_head {text : Bytes} (h : IsOpen text) : ∃ rest, text = 60 :: rest := by
  rcases h with ⟨_, rfl, -⟩ | ⟨_, rfl, -⟩ | ⟨_, _, rfl, -⟩ <;> exact ⟨_, rfl⟩

theorem parseEnvelopeCommandArgument_eq {text : Bytes} (h : argument.bytes = 60 :: text) :
    parseEnvelopeCommandArgument accept (some argument) = (do
      let (path, text) ← parsePath accept argument.bytes
      let (parameters, rest) ← parseParameters none text
      if rest ≠ [] then .error (.invalid .garbage rest) else .ok (path, parameters)) := by
  unfold parseEnvelopeCommandArgument
  apply if_neg
  rw [h, List.head?_cons]
  exact not_not_intro rfl

/-- An argument of the grammar is parsed to its path and its parameters. -/
theorem parse_of_renders {path : Option Bytes} {parameters : List (Bytes × Option Bytes)}
    (h : Renders accept argument.bytes path parameters) :
    parseEnvelopeCommandArgument accept (some argument) = .ok (path, tableOf parameters) := by
  obtain ⟨text, hargument, hpath, hall⟩ := h
  obtain ⟨rest, rfl⟩ := isPath_head hpath
  rw [parseEnvelopeCommandArgument_eq hargument, hargument, parsePath_of_isPath hpath]
  simp only [bind, Except.bind, parseParameters_render parameters hall]
  rfl

/-- The parser reads behind the NUL of an argument that ends within quotes or brackets. -/
theorem parse_of_isOpen (h : IsOpen argument.bytes) :
    parseEnvelopeCommandArgument accept (some argument) = .error .overrun := by
  obtain ⟨rest, hargument⟩ := isOpen_head h
  rw [parseEnvelopeCommandArgument_eq hargument, parsePath_of_open h]
  rfl

theorem parse_tells {text : Bytes} (h : argument.bytes = 60 :: text) :
    Tells (fun _ => ∃ path parameters, Renders accept argument.bytes path parameters)
      (IsOpen argument.bytes) (parseEnvelopeCommandArgument accept (some argument)) := by
  rw [parseEnvelopeCommandArgument_eq h, h]
  apply (parsePath_tells text).bind id
  rintro ⟨path, behind⟩ ⟨pathText, htext, hpath⟩
  apply (parseParameters_tells none behind).bind False.elim
  rintro ⟨table, rest⟩ ⟨parameters, hbehind, hall⟩
  dsimp only at htext hbehind ⊢
  by_cases hrest : rest = []
  · rw [if_neg (not_not_intro hrest)]
    refine ⟨path, parameters, pathText, ?_, hpath, hall⟩
    rw [htext, hbehind, hrest, List.append_nil]
  · rw [if_pos hrest]
    trivial

/-- The parser is exact on the arguments that do not end within quotes or brackets. -/
theorem exact_iff_not_isOpen (accept : Bool) (argument : CString) :
    Exact accept argument ↔ ¬IsOpen argument.bytes := by
  rw [Exact, parseArgument_eq]
  constructor
  · intro h hopen
    have hoverrun := @parse_of_isOpen accept argument hopen
    by_cases hrenders : ∃ path parameters, Renders accept argument.bytes path parameters
    · obtain ⟨path, parameters, hrenders⟩ := hrenders
      cases hoverrun.symm.trans (h.1 path parameters hrenders)
    · obtain ⟨message, position, herror⟩ :=
        h.2 fun path parameters hr => hrenders ⟨path, parameters, hr⟩
      cases hoverrun.symm.trans herror
  · intro hopen
    refine ⟨fun path parameters h => parse_of_renders h, fun hnone => ?_⟩
    by_cases hstart : argument.bytes.head? = some 60
    · obtain ⟨text, htext⟩ := List.head?_eq_some_iff.mp hstart
      have htells := @parse_tells accept argument text htext
      cases hresult : parseEnvelopeCommandArgument accept (some argument) with
      | ok result =>
          rw [hresult] at htells
          obtain ⟨path, parameters, hrenders⟩ := htells
          exact absurd hrenders (hnone path parameters)
      | error stop =>
          rw [hresult] at htells
          cases stop with
          | argumentMissing => exact htells.elim
          | invalid message position => exact ⟨message, position, rfl⟩
          | overrun => exact absurd htells hopen
    · exact ⟨.argumentStart, argument.bytes, if_pos hstart⟩

/-- The table of parameters with different keywords has the values that they are given. -/
theorem lookup_foldl_insertParameter (parameters : List (Bytes × Option Bytes))
    (hnodup : (parameters.map Prod.fst).Nodup) (table : Option Parameters) (keyword : Bytes) :
    ((parameters.foldl (fun table parameter =>
        insertParameter table parameter.1 parameter.2) table).getD ∅).lookup keyword =
      (parameters.lookup keyword).or ((table.getD ∅).lookup keyword) := by
  induction parameters generalizing table with
  | nil => rfl
  | cons parameter parameters ih =>
      rw [List.map_cons, List.nodup_cons] at hnodup
      rw [List.foldl_cons, ih hnodup.2, List.lookup_cons, insertParameter, Option.getD_some]
      by_cases hkeyword : keyword = parameter.1
      · subst hkeyword
        have hnone : parameters.lookup parameter.1 = none := by
          rw [List.lookup_eq_none_iff]
          intro other hother
          have hne : parameter.1 ≠ other.1 := by
            intro heq
            exact hnodup.1 (List.mem_map.mpr ⟨other, hother, heq.symm⟩)
          exact bne_iff_ne.mpr hne
        rw [hnone, Option.none_or, Finmap.lookup_insert]
        simp
      · have hbeq : (keyword == parameter.1) = false := beq_eq_false_iff_ne.mpr hkeyword
        rw [hbeq, Finmap.lookup_insert_of_ne _ hkeyword]

end Argument

/-- The parsers are exact on the arguments that do not end within quotes or brackets; and what is
written of a path and of parameters with different keywords is read back. -/
theorem exact_iff (acceptPostmasterPath : Bool) :
    (∀ argument, Exact acceptPostmasterPath argument ↔ ¬IsOpen argument.bytes) ∧
      ∀ argument path parameters,
        Renders acceptPostmasterPath argument.bytes (some path) parameters →
        (parameters.map Prod.fst).Nodup →
        ∃ table, parseArgument acceptPostmasterPath (some argument) = .ok (some path, table) ∧
          ∀ keyword, (table.getD ∅).lookup keyword = parameters.lookup keyword := by
  constructor
  · exact exact_iff_not_isOpen acceptPostmasterPath
  · intro argument path parameters hrenders hnodup
    rw [parseArgument_eq]
    refine ⟨tableOf parameters, parse_of_renders hrenders, fun keyword => ?_⟩
    rw [tableOf, lookup_foldl_insertParameter parameters hnodup, Option.getD_none,
      Finmap.lookup_empty, Option.or_none]

/-- `"<u@e> S=1"`. -/
def sizedArgument : CString := ⟨[60, 117, 64, 101, 62, 32, 83, 61, 49], by decide⟩

theorem renders_sizedArgument :
    Renders false sizedArgument.bytes (some [60, 117, 64, 101, 62]) [([83], some [49])] := by
  have hmailbox : IsMailbox [117, 64, 101] :=
    ⟨[117], [101], rfl, .inl (List.all_eq_true.mp rfl), .inl ⟨101, [], rfl, rfl, by simp⟩⟩
  refine ⟨_, rfl, .mailbox hmailbox (by decide), ?_⟩
  intro parameter hparameter
  rw [List.mem_singleton.mp hparameter]
  refine ⟨⟨83, [], rfl, rfl, by simp⟩, ?_⟩
  rintro value ⟨⟩
  exact List.all_eq_true.mp rfl

theorem exact_iff_sizedArgument :
    ∃ table, parseMailFromArgument (some sizedArgument) =
        .ok (some [60, 117, 64, 101, 62], table) ∧
      ∀ keyword, (table.getD ∅).lookup keyword = [([83], some [49])].lookup keyword :=
  (exact_iff false).2 _ _ _ renders_sizedArgument (by decide)

/-- The scan of a local part that begins with a quote goes on behind the NUL. -/
theorem not_exact_quote :
    ¬∀ (acceptPostmasterPath : Bool) (argument : CString), Exact acceptPostmasterPath argument := by
  intro h
  have hexact := (exact_iff_not_isOpen _ _).mp (h false ⟨[60, 34], by decide⟩)
  exact hexact (.inr (.inl ⟨[34], rfl, by decide, .inl ⟨[], rfl, .nil⟩⟩))


end MilterManager.Esmtp
