import EntitySearch.Filter
import EntitySearch.Unicode.Blank

/-! Search options: constraints beyond plain filters, a text to search for, and the page of results
that is wanted. -/
namespace EntitySearch

/-- A field with its admitted values. The empty list constrains nothing. -/
structure Membership where
  field : String
  values : List Json

structure Page where
  limit : Option UInt64
  offset : Option UInt64
deriving DecidableEq

def Page.isUnbounded (page : Page) : Bool :=
  page.limit.isNone && page.offset.isNone

structure SearchOptions where
  memberships : List Membership
  /-- The text to search for, as the caller wrote it. -/
  text : Option String
  raw : FilterSet
  page : Page

namespace SearchOptions

def empty : SearchOptions :=
  ⟨[], none, .empty, ⟨none, none⟩⟩

def withMembership (options : SearchOptions) (field : String) (values : List Json) :
    SearchOptions :=
  { options with memberships := options.memberships ++ [⟨field, values⟩] }

def withText (options : SearchOptions) (term : String) : SearchOptions :=
  { options with text := some term }

def withRaw (options : SearchOptions) (field : String) (value : Json) : SearchOptions :=
  { options with raw := options.raw.rawEquals field value }

def withLimit (options : SearchOptions) (limit : UInt64) : SearchOptions :=
  { options with page := { options.page with limit := some limit } }

def withOffset (options : SearchOptions) (offset : UInt64) : SearchOptions :=
  { options with page := { options.page with offset := some offset } }

/-- Memberships come first, then raw filters. -/
def filters (options : SearchOptions) : FilterSet :=
  ⟨options.memberships.map (fun m => ⟨m.field, .anyOf m.values, .known⟩) ++ options.raw.entries⟩

def malformed {α : Type} (option : String) (fault : OptionFault) : Except SearchError α :=
  .error (.validation (.malformedOption option fault))

/-- Memberships from pairs of a field and its values; `index` counts the pairs before. -/
def membershipsOfPairs (index : Nat) : List Json → Except SearchError (List Membership)
  | [] => .ok []
  | .array [.string field, .array values] :: rest => do
    return ⟨field, values⟩ :: (← membershipsOfPairs (index + 1) rest)
  | entry :: _ => malformed "$in" (.notPair index entry)

def membershipsOfJson : Json → Except SearchError (List Membership)
  | .array entries => membershipsOfPairs 0 entries
  | _ => malformed "$in" .notPairs

/-- Term of a text query. Without one the empty text is searched for. -/
def termOfJson : Json → Except SearchError String
  | .object members =>
    match members.lookup "$search" with
    | none | some .null => .ok ""
    | some (.string term) => .ok term
    | some value => malformed "$text" (.termNotString value.kindName)
  | _ => malformed "$text" .notTextQuery

/-- Adds digits as long as the number fits a word. -/
def readDigits (n : Nat) : List Char → Option Nat
  | [] => some n
  | c :: rest =>
    if c.isDigit ∧ 10 * n + (c.toNat - '0'.toNat) < 2 ^ 64 then
      readDigits (10 * n + (c.toNat - '0'.toNat)) rest
    else
      none

/-- Trims the text and reads digits behind at most one plus sign. -/
def countOfString? (text : String) : Option UInt64 :=
  match Unicode.trim text.toList with
  | [] | ['+'] => none
  | '+' :: digits => (readDigits 0 digits).map UInt64.ofNat
  | digits => (readDigits 0 digits).map UInt64.ofNat

/-- A count from an integer or a text. Null and the empty text leave it unset. -/
def countOfJson (option : String) : Json → Except SearchError (Option UInt64)
  | .null => .ok none
  | .number value =>
    match value with
    | .integer n =>
      match n.toUInt64? with
      | some count => .ok (some count)
      | none => malformed option (.countNumber value)
    | .float _ => malformed option (.countNumber value)
  | .string text =>
    if text = "" then .ok none
    else match countOfString? text with
      | some count => .ok (some count)
      | none => malformed option (.countString text)
  | value => malformed option (.countKind value.kindName)

/-- First field named in the operand of an operator. -/
def operandField? : Json → Option String
  | .array (.array (.string field :: _) :: _) => some field
  | .object ((key, _) :: _) => some key
  | _ => none

/-- Reads one member. Keys that are no option are ignored, unless they are unsupported operators. -/
def addMember (options : SearchOptions) (key : String) (value : Json) :
    Except SearchError SearchOptions := do
  if key = "$in" then
    return { options with memberships := ← membershipsOfJson value }
  else if key = "$text" then
    return { options with text := some (← termOfJson value) }
  else if key = "$raw" then
    return { options with raw := ← FilterSet.ofJson .raw value }
  else if key = "limit" then
    return { options with page := { options.page with limit := ← countOfJson "limit" value } }
  else if key = "page_token" then
    return { options with page := { options.page with offset := ← countOfJson "page_token" value } }
  else if isUnsupportedOperator key then
    .error (.unsupportedOperator key ((operandField? value).getD "*"))
  else
    return options

def addMembers (options : SearchOptions) :
    List (String × Json) → Except SearchError SearchOptions
  | [] => .ok options
  | (key, value) :: rest => do (← options.addMember key value).addMembers rest

/-- Reads options from null or from an object. A limit of zero is refused after all members. -/
def ofJson : Json → Except SearchError SearchOptions
  | .null => .ok empty
  | .object members => do
    let options ← empty.addMembers members
    if options.page.limit = some 0 then malformed "limit" .zeroLimit else return options
  | value => malformed "options" (.notObject value.kindName)

end SearchOptions

end EntitySearch
