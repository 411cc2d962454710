import Scrobbler.Json.Document
import Scrobbler.Proofs.Json.Numeral
import Scrobbler.Proofs.Json.TextLiteral

/-!
Documents of written values. The written form of a value whose numbers are whole is cut into the tokens
of the value, whatever stands after it, and these tokens are put together as the tree of the value. So
a value that is written and read is one tree, with nothing left over.
-/

namespace Scrobbler.Json

open Decimal Text

namespace Number

/-- A number that 64 bits hold as a whole number, or a zero of binary64, as `-0` is one. -/
def isWhole : Number → Bool
  | .integer _ => true
  | .float _ magnitude => magnitude = .zero

/-- The numeral that a whole number is written as. -/
def numeral : Number → Numeral
  | .integer n => .ofInt n
  | .float negative _ => .pointZero negative

end Number

mutual

/-- All numbers of a value are whole. -/
def isWhole : Json → Bool
  | .number n => n.isWhole
  | .array items => isWholeItems items
  | .object members => isWholeMembers members
  | _ => true

def isWholeItems : List Json → Bool
  | [] => true
  | item :: rest => isWhole item && isWholeItems rest

def isWholeMembers : List (String × Json) → Bool
  | [] => true
  | (_, value) :: rest => isWhole value && isWholeMembers rest

end

mutual

/-- The tokens of the compact written form. -/
def tokens : Json → List Token
  | .null => [.null]
  | .bool b => [.bool b]
  | .number n => [.number n.numeral]
  | .text s => [.text (.ofString s)]
  | .array [] => [.openArray, .closeArray]
  | .array (item :: rest) => .openArray :: (tokens item ++ (itemTokens rest ++ [.closeArray]))
  | .object [] => [.openObject, .closeObject]
  | .object ((name, value) :: rest) =>
      .openObject :: .text (.ofString name) :: .colon ::
        (tokens value ++ (memberTokens rest ++ [.closeObject]))

/-- The tokens of items that follow a first one. -/
def itemTokens : List Json → List Token
  | [] => []
  | item :: rest => .comma :: (tokens item ++ itemTokens rest)

/-- The tokens of members that follow a first one. -/
def memberTokens : List (String × Json) → List Token
  | [] => []
  | (name, value) :: rest =>
      .comma :: .text (.ofString name) :: .colon :: (tokens value ++ memberTokens rest)

end

mutual

/-- The tree of a value. -/
def node : Json → Node
  | .null => .null
  | .bool b => .bool b
  | .number n => .number n.numeral
  | .text s => .text (.ofString s)
  | .array items => .array (itemNodes items) .closed
  | .object members => .object (memberNodes members) .closed

def itemNodes : List Json → List Node
  | [] => []
  | item :: rest => node item :: itemNodes rest

def memberNodes : List (String × Json) → List (TextLiteral × Node)
  | [] => []
  | (name, value) :: rest => (.ofString name, node value) :: memberNodes rest

end

namespace Token

theorem scan_nil : scan [] = [] := by
  rw [scan]
  rfl

/-- The first symbol of a text that starts with no space starts a token. -/
theorem scan_cons {c : Char} (hSpace : isSpace c = false) (rest : List Symbol) :
    scan (some c :: rest) = (first (some c) rest).1 :: scan (first (some c) rest).2 := by
  have hSkip : skipSpace (some c :: rest) = some c :: rest := by simp [skipSpace, hSpace]
  rw [scan]
  split
  · next hNil _ => simp [hSkip] at hNil
  · next symbol tail _ hCons _ =>
      rw [hSkip] at hCons
      obtain ⟨rfl, rfl⟩ := List.cons.inj hCons
      rfl

/-- A text in quotes is one token. -/
theorem scan_quoted (s : String) (rest : List Symbol) :
    scan ((quoted s).map some ++ rest) = .text (.ofString s) :: scan rest := by
  have hFirst : first (some '\"') ((s.toList.flatMap escapeChar ++ ['\"']).map some ++ rest) =
      (.text (.ofString s), rest) := by
    simp only [first, ofText, TextLiteral.read_quoted]
  rw [quoted, List.map_cons, List.cons_append, scan_cons rfl, hFirst]

theorem first_of_isDigit {c : Char} (h : c.isDigit = true) (rest : List Symbol) :
    first (some c) rest = ofNumeral false (some c :: rest) := by
  unfold first
  split <;> simp_all

theorem isSpace_of_isDigit {c : Char} (h : c.isDigit = true) : isSpace c = false := by
  rw [Bool.eq_false_iff]
  intro hSpace
  simp only [isSpace, Bool.or_eq_true, beq_iff_eq] at hSpace
  rcases hSpace with ((rfl | rfl) | rfl) | rfl <;> revert h <;> decide

/-- A whole number is one token, unless the text goes on like a numeral. -/
theorem scan_integerChars (n : Int) {rest : List Symbol} (h : Numeral.continues rest = false) :
    scan ((integerChars n).map some ++ rest) = .number (.ofInt n) :: scan rest := by
  cases n with
  | ofNat n =>
      have hRead := Numeral.read_naturalChars false n h
      have hDigit := fun c => Numeral.isDigit_of_mem_naturalChars (n := n) (c := c)
      rw [integerChars]
      cases hChars : naturalChars n with
      | nil => exact absurd hChars Nat.toDigits_ne_nil
      | cons c cs =>
          have hFirst := hDigit c (hChars ▸ List.mem_cons_self)
          rw [hChars, List.map_cons, List.cons_append] at hRead
          rw [List.map_cons, List.cons_append, scan_cons (isSpace_of_isDigit hFirst),
            first_of_isDigit hFirst, ofNumeral, hRead]
          rfl
  | negSucc n =>
      have hRead := Numeral.read_naturalChars true (n + 1) h
      have hFirst : first (some '-') ((naturalChars (n + 1)).map some ++ rest) =
          (.number (.ofInt (.negSucc n)), rest) := by
        simp only [first, ofNumeral, hRead, Numeral.ofInt, Int.negSucc_lt_zero, decide_true,
          Int.natAbs_negSucc, Nat.succ_eq_add_one]
      rw [integerChars, List.map_cons, List.cons_append, scan_cons rfl, hFirst]

/-- A written zero with a point is scanned as one token. -/
theorem scan_zeroChars (negative : Bool) {rest : List Symbol} (h : Numeral.continues rest = false) :
    scan ((Number.float negative .zero).chars.map some ++ rest) =
      .number (.pointZero negative) :: scan rest := by
  have hRead := Numeral.read_pointZero negative h
  have hChars : magnitudeChars .zero = ['0', '.', '0'] := by simp [magnitudeChars, Binary64.zero]
  have hFirst : first (some '0') (some '.' :: some '0' :: rest) =
      ofNumeral false (some '0' :: some '.' :: some '0' :: rest) := first_of_isDigit rfl _
  rw [Number.chars, hChars]
  cases negative with
  | true =>
      rw [if_pos rfl, List.map_cons, List.cons_append, scan_cons rfl]
      simp only [List.map_cons, List.map_nil, List.cons_append, List.nil_append, first, ofNumeral, hRead]
  | false =>
      rw [if_neg Bool.false_ne_true, List.map_cons, List.cons_append, scan_cons rfl]
      simp only [List.map_cons, List.map_nil, List.cons_append, List.nil_append, hFirst, ofNumeral,
        hRead]

/-- What follows an item does not go on with its numeral. -/
theorem continues_itemsChars (items : List Json) (rest : List Symbol) :
    Numeral.continues ((itemsChars items).map some ++ some ']' :: rest) = false := by
  cases items <;> simp [itemsChars, Numeral.continues]

theorem continues_membersChars (members : List (String × Json)) (rest : List Symbol) :
    Numeral.continues ((membersChars members).map some ++ some '\x7d' :: rest) = false := by
  cases members <;> simp [membersChars, Numeral.continues]

mutual

/-- A written value is cut into its tokens. -/
theorem scan_chars (value : Json) (rest : List Symbol) (hWhole : value.isWhole = true)
    (h : Numeral.continues rest = false) :
    scan (value.chars.map some ++ rest) = value.tokens ++ scan rest := by
  match value with
  | .null => exact scan_cons rfl _
  | .bool true => exact scan_cons rfl _
  | .bool false => exact scan_cons rfl _
  | .number (.integer n) => exact scan_integerChars n h
  | .number (.float negative magnitude) =>
      obtain rfl : magnitude = .zero := of_decide_eq_true hWhole
      exact scan_zeroChars negative h
  | .text s => exact scan_quoted s rest
  | .array [] =>
      have hOpen : scan (some '[' :: some ']' :: rest) = .openArray :: scan (some ']' :: rest) :=
        scan_cons rfl _
      have hClose : scan (some ']' :: rest) = .closeArray :: scan rest := scan_cons rfl rest
      simpa [chars, tokens, hClose] using hOpen
  | .array (item :: items) =>
      simp only [isWhole, isWholeItems, Bool.and_eq_true] at hWhole
      have hItem := scan_chars item ((itemsChars items).map some ++ some ']' :: rest) hWhole.1
        (continues_itemsChars items rest)
      have hItems := scan_itemsChars items rest hWhole.2
      simp only [chars, tokens, List.map_cons, List.map_append, List.map_nil, List.cons_append,
        List.append_assoc, List.nil_append]
      rw [scan_cons rfl]
      simp only [first, hItem, hItems]
  | .object [] =>
      have hOpen : scan (some '\x7b' :: some '\x7d' :: rest) =
          .openObject :: scan (some '\x7d' :: rest) := scan_cons rfl _
      have hClose : scan (some '\x7d' :: rest) = .closeObject :: scan rest := scan_cons rfl rest
      simpa [chars, tokens, hClose] using hOpen
  | .object ((name, value) :: members) =>
      simp only [isWhole, isWholeMembers, Bool.and_eq_true] at hWhole
      have hValue := scan_chars value ((membersChars members).map some ++ some '\x7d' :: rest) hWhole.1
        (continues_membersChars members rest)
      have hMembers := scan_membersChars members rest hWhole.2
      simp only [chars, tokens, List.map_cons, List.map_append, List.map_nil, List.cons_append,
        List.append_assoc, List.nil_append]
      rw [scan_cons rfl]
      simp only [first]
      rw [scan_quoted, scan_cons rfl]
      simp only [first, hValue, hMembers]

/-- Written items are scanned as their tokens. -/
theorem scan_itemsChars (items : List Json) (rest : List Symbol)
    (hWhole : isWholeItems items = true) :
    scan ((itemsChars items).map some ++ some ']' :: rest) =
      itemTokens items ++ .closeArray :: scan rest := by
  match items with
  | [] => exact scan_cons rfl rest
  | item :: items =>
      simp only [isWholeItems, Bool.and_eq_true] at hWhole
      have hItem := scan_chars item ((itemsChars items).map some ++ some ']' :: rest) hWhole.1
        (continues_itemsChars items rest)
      have hItems := scan_itemsChars items rest hWhole.2
      simp only [itemsChars, itemTokens, List.map_cons, List.map_append, List.cons_append,
        List.append_assoc]
      rw [scan_cons rfl]
      simp only [first, hItem, hItems]

theorem scan_membersChars (members : List (String × Json)) (rest : List Symbol)
    (hWhole : isWholeMembers members = true) :
    scan ((membersChars members).map some ++ some '\x7d' :: rest) =
      memberTokens members ++ .closeObject :: scan rest := by
  match members with
  | [] => exact scan_cons rfl rest
  | (name, value) :: members =>
      simp only [isWholeMembers, Bool.and_eq_true] at hWhole
      have hValue := scan_chars value ((membersChars members).map some ++ some '\x7d' :: rest) hWhole.1
        (continues_membersChars members rest)
      have hMembers := scan_membersChars members rest hWhole.2
      simp only [membersChars, memberTokens, List.map_cons, List.map_append, List.cons_append,
        List.append_assoc]
      rw [scan_cons rfl]
      simp only [first]
      rw [scan_quoted, scan_cons rfl]
      simp only [first, hValue, hMembers]

end

/-- Space in front of a token is passed over. -/
theorem scan_space {c : Char} (hSpace : isSpace c = true) (rest : List Symbol) :
    scan (some c :: rest) = scan rest := by
  have hSkip : skipSpace (some c :: rest) = skipSpace rest := by simp [skipSpace, hSpace]
  rw [scan.eq_def (some c :: rest), scan.eq_def rest]
  split
  · next hNil _ =>
      rw [hSkip] at hNil
      split
      · rfl
      · next hCons _ => simp [hNil] at hCons
  · next symbol tail _ hCons _ =>
      rw [hSkip] at hCons
      split
      · next hNil _ => simp [hNil] at hCons
      · next hSame _ =>
          obtain ⟨rfl, rfl⟩ := List.cons.inj (hCons.symm.trans hSame)
          rfl

/-- A member on a line of its own. -/
def lineChars (member : String × Json) : List Char :=
  [' ', ' '] ++ quoted member.1 ++ [':', ' '] ++ member.2.chars

/-- A written member is scanned as its name, a colon and its value. -/
theorem scan_lineChars (name : String) (value : Json) {rest : List Symbol} (hWhole : value.isWhole = true)
    (h : Numeral.continues rest = false) :
    scan ((lineChars (name, value)).map some ++ rest) =
      .text (.ofString name) :: .colon :: (value.tokens ++ scan rest) := by
  have hColon : first (some ':') (some ' ' :: (value.chars.map some ++ rest)) =
      (.colon, some ' ' :: (value.chars.map some ++ rest)) := rfl
  simp only [lineChars, List.map_append, List.map_cons, List.append_assoc, List.cons_append, List.nil_append]
  rw [scan_space rfl, scan_space rfl, scan_quoted, scan_cons rfl, hColon, scan_space rfl,
    scan_chars value rest hWhole h]

/-- Lines are cut into the tokens of their members, with the commas between them. -/
theorem scan_lines (name : String) (value : Json) (members : List (String × Json)) {rest : List Symbol}
    (hWhole : isWholeMembers ((name, value) :: members) = true) (h : Numeral.continues rest = false) :
    scan ((List.intercalate [',', '\n'] (((name, value) :: members).map lineChars)).map some ++ rest) =
      .text (.ofString name) :: .colon :: (value.tokens ++ (memberTokens members ++ scan rest)) := by
  induction members generalizing name value with
  | nil =>
      rw [isWholeMembers, isWholeMembers, Bool.and_true] at hWhole
      rw [List.map_cons, List.map_nil, List.intercalate_singleton, scan_lineChars name value hWhole h]
      rfl
  | cons next members ih =>
      rw [isWholeMembers, Bool.and_eq_true] at hWhole
      have hRest := ih next.1 next.2 hWhole.2
      have hComma : first (some ',') (some '\n' ::
          ((List.intercalate [',', '\n'] ((next :: members).map lineChars)).map some ++ rest)) =
        (.comma, some '\n' ::
          ((List.intercalate [',', '\n'] ((next :: members).map lineChars)).map some ++ rest)) := rfl
      rw [List.map_cons, List.map_cons, List.intercalate_cons_cons, ← List.map_cons, List.append_assoc,
        List.map_append, List.append_assoc, scan_lineChars name value hWhole.1 rfl, List.map_append,
        List.append_assoc, List.map_cons, List.map_cons, List.map_nil, List.cons_append, List.cons_append,
        List.nil_append, scan_cons rfl, hComma, scan_space rfl, hRest]
      simp only [memberTokens, List.cons_append, List.append_assoc]

/-- The lines of an object have the tokens of its compact form. -/
theorem scan_renderLines (members : List (String × Json)) (hWhole : isWholeMembers members = true) :
    scan ((renderLines members).toList.map some) = (Json.object members).tokens := by
  have hEnd : scan [some '\n', some '\x7d'] = [.closeObject] := by
    rw [scan_space rfl, scan_cons rfl]
    exact congrArg _ scan_nil
  have hChars : (renderLines members).toList.map some = some '\x7b' :: some '\n' ::
      ((List.intercalate [',', '\n'] (members.map lineChars)).map some ++ [some '\n', some '\x7d']) := by
    rw [renderLines, String.toList_ofList, List.map_append, List.map_append]
    rfl
  have hOpen : ∀ rest, scan (some '\x7b' :: some '\n' :: rest) = .openObject :: scan rest := by
    intro rest
    rw [scan_cons rfl]
    exact congrArg _ (scan_space rfl rest)
  rw [hChars, hOpen]
  cases members with
  | nil => exact congrArg _ hEnd
  | cons member members =>
      rw [scan_lines member.1 member.2 members hWhole rfl, hEnd]
      rfl

end Token

namespace Document

/-- The first token of a value closes no array. -/
theorem exists_first_token (value : Json) :
    ∃ token rest, value.tokens = token :: rest ∧ token ≠ .closeArray := by
  match value with
  | .null => exact ⟨_, _, rfl, by simp⟩
  | .bool _ => exact ⟨_, _, rfl, by simp⟩
  | .number _ => exact ⟨_, _, rfl, by simp⟩
  | .text _ => exact ⟨_, _, rfl, by simp⟩
  | .array [] => exact ⟨_, _, rfl, by simp⟩
  | .array (_ :: _) => exact ⟨_, _, rfl, by simp⟩
  | .object [] => exact ⟨_, _, rfl, by simp⟩
  | .object (_ :: _) => exact ⟨_, _, rfl, by simp⟩

/-- The first item of an array is read like any value inside the array. -/
theorem build_firstItem (value : Json) (more : List Token) (outer : List Frame) :
    build (value.tokens ++ more) (.firstItem outer) =
      build (value.tokens ++ more) (.value (.array [] :: outer)) := by
  obtain ⟨token, rest, hTokens, hOpen⟩ := exists_first_token value
  rw [hTokens, List.cons_append, build, build]
  have hStep : step token (.firstItem outer) = step token (.value (.array [] :: outer)) := by
    cases token with
    | closeArray => exact absurd rfl hOpen
    | _ => rfl
  rw [hStep]

/-- So is an item after a comma. -/
theorem build_nextItem (value : Json) (more : List Token) (done : List Node) (outer : List Frame) :
    build (value.tokens ++ more) (.nextItem done outer) =
      build (value.tokens ++ more) (.value (.array done :: outer)) := by
  obtain ⟨token, rest, hTokens, hOpen⟩ := exists_first_token value
  rw [hTokens, List.cons_append, build, build]
  have hStep : step token (.nextItem done outer) = step token (.value (.array done :: outer)) := by
    cases token with
    | closeArray => exact absurd rfl hOpen
    | _ => rfl
  rw [hStep]

mutual

/-- The tokens of a value are put together as its tree, whatever is around it. -/
theorem build_tokens (value : Json) (more : List Token) (outer : List Frame) :
    build (value.tokens ++ more) (.value outer) = build more (complete value.node outer) := by
  match value with
  | .null => rfl
  | .bool _ => rfl
  | .number _ => rfl
  | .text _ => rfl
  | .array [] => rfl
  | .array (item :: items) =>
      have hItem := build_tokens item (itemTokens items ++ .closeArray :: more) (.array [] :: outer)
      have hItems := build_itemTokens items [item.node] more outer
      have hFirst := build_firstItem item (itemTokens items ++ .closeArray :: more) outer
      simp only [tokens, List.cons_append, List.append_assoc, List.nil_append]
      change build (item.tokens ++ (itemTokens items ++ .closeArray :: more)) (.firstItem outer) = _
      rw [hFirst, hItem]
      exact hItems
  | .object [] => rfl
  | .object ((name, value) :: members) =>
      have hValue := build_tokens value (memberTokens members ++ .closeObject :: more)
        (.object [] (.ofString name) :: outer)
      have hMembers := build_memberTokens members [(.ofString name, value.node)] more outer
      simp only [tokens, List.cons_append, List.append_assoc, List.nil_append]
      change build (value.tokens ++ (memberTokens members ++ .closeObject :: more))
        (.value (.object [] (.ofString name) :: outer)) = _
      rw [hValue]
      exact hMembers

/-- The tokens of items are built to their trees, behind those that are done. -/
theorem build_itemTokens (items : List Json) (done : List Node) (more : List Token)
    (outer : List Frame) :
    build (itemTokens items ++ .closeArray :: more) (.afterItem done outer) =
      build more (complete (.array (done.reverse ++ itemNodes items) .closed) outer) := by
  match items with
  | [] =>
      simp only [itemNodes, List.append_nil]
      rfl
  | item :: items =>
      have hNext := build_nextItem item (itemTokens items ++ .closeArray :: more) done outer
      have hItem := build_tokens item (itemTokens items ++ .closeArray :: more)
        (.array done :: outer)
      have hItems := build_itemTokens items (item.node :: done) more outer
      simp only [itemTokens, List.cons_append, List.append_assoc]
      change build (item.tokens ++ (itemTokens items ++ .closeArray :: more))
        (.nextItem done outer) = _
      rw [hNext, hItem]
      simp only [List.reverse_cons, List.append_assoc, List.singleton_append] at hItems
      exact hItems

theorem build_memberTokens (members : List (String × Json)) (done : List (TextLiteral × Node))
    (more : List Token) (outer : List Frame) :
    build (memberTokens members ++ .closeObject :: more) (.afterMember done outer) =
      build more (complete (.object (done.reverse ++ memberNodes members) .closed) outer) := by
  match members with
  | [] =>
      simp only [memberNodes, List.append_nil]
      rfl
  | (name, value) :: members =>
      have hValue := build_tokens value (memberTokens members ++ .closeObject :: more)
        (.object done (.ofString name) :: outer)
      have hMembers := build_memberTokens members ((.ofString name, value.node) :: done) more outer
      simp only [memberTokens, List.cons_append, List.append_assoc]
      change build (value.tokens ++ (memberTokens members ++ .closeObject :: more))
        (.value (.object done (.ofString name) :: outer)) = _
      rw [hValue]
      simp only [List.reverse_cons, List.append_assoc, List.singleton_append] at hMembers
      exact hMembers

end

/-- A value that is written and read is its tree. -/
theorem ofText_render {value : Json} (hWhole : value.isWhole = true) :
    ofText value.render = ⟨value.node, false⟩ := by
  have hScan := Token.scan_chars value [] hWhole rfl
  have hBuild := build_tokens value [] []
  rw [List.append_nil, Token.scan_nil] at hScan
  rw [ofText, ofSymbols, Text.symbols, render, String.toList_ofList, hScan, ofTokens, hBuild]
  rfl

/-- So is an object that is written line by line. -/
theorem ofText_renderLines {members : List (String × Json)} (hWhole : isWholeMembers members = true) :
    ofText (renderLines members) = ⟨(Json.object members).node, false⟩ := by
  have hBuild := build_tokens (.object members) [] []
  rw [List.append_nil] at hBuild
  rw [ofText, ofSymbols, Text.symbols, Token.scan_renderLines members hWhole, ofTokens, hBuild]
  rfl

end Document

end Scrobbler.Json
