import EntitySearch.Proofs.CountSpelling
import EntitySearch.Proofs.PagingIndependence
import EntitySearch.Proofs.SpelledOptions

/-! The numbers of a page. Whatever else a request says, each of them is set to exactly the number
that its option spells, and the body of the compiled search carries just that number. -/
namespace EntitySearch.SearchOptions

/-- The two numbers of a page, treated alike by all lemmas. -/
inductive PageNumber where
  | limit
  | offset
deriving DecidableEq

namespace PageNumber

def option : PageNumber → String
  | .limit => "limit"
  | .offset => "page_token"

def bodyKey : PageNumber → String
  | .limit => "size"
  | .offset => "from"

def get (page : Page) : PageNumber → Option UInt64
  | .limit => page.limit
  | .offset => page.offset

def set (count : Option UInt64) (options : SearchOptions) : PageNumber → SearchOptions
  | .limit => { options with page := { options.page with limit := count } }
  | .offset => { options with page := { options.page with offset := count } }

variable (number : PageNumber) {options : SearchOptions} {key : String} {value : Json}
  {count : Option UInt64} {members front back : List (String × Json)}

/-- The member of the number is read by the one reader for counts and sets nothing else. -/
theorem addMember_option : options.addMember number.option value =
    (countOfJson number.option value).map fun count => number.set count options := by
  cases number with
  | limit =>
      rw [option, addMember_limit]
      cases countOfJson "limit" value <;> rfl
  | offset =>
      rw [option, addMember_offset]
      cases countOfJson "page_token" value <;> rfl

/-- Members with another key commute with setting the number, errors included. -/
theorem addMember_set (hKey : key ≠ number.option) :
    (number.set count options).addMember key value =
      (options.addMember key value).map fun next => number.set count next := by
  by_cases hOption : IsOption key
  · rcases isOption_iff.mp hOption with rfl | rfl | rfl | rfl | rfl
    · rw [addMember_memberships, addMember_memberships]
      cases membershipsOfJson value <;> cases number <;> rfl
    · rw [addMember_text, addMember_text]
      cases termOfJson value <;> cases number <;> rfl
    · rw [addMember_raw, addMember_raw]
      cases FilterSet.ofJson .raw value <;> cases number <;> rfl
    · cases number with
      | limit => exact absurd rfl hKey
      | offset =>
          rw [addMember_limit, addMember_limit]
          cases countOfJson "limit" value <;> rfl
    · cases number with
      | limit =>
          rw [addMember_offset, addMember_offset]
          cases countOfJson "page_token" value <;> rfl
      | offset => exact absurd rfl hKey
  · rw [addMember_other hOption, addMember_other hOption]
    split <;> rfl

/-- Run lemma for `addMember_set`, for members none of which has the key of the number. -/
theorem addMembers_set (hKeys : number.option ∉ members.map Prod.fst) :
    (number.set count options).addMembers members =
      (options.addMembers members).map fun next => number.set count next := by
  induction members generalizing options with
  | nil => rfl
  | cons member rest ih =>
      obtain ⟨key, value⟩ := member
      rw [List.map_cons, List.mem_cons, not_or] at hKeys
      rw [addMembers, addMembers, number.addMember_set (Ne.symm hKeys.1)]
      cases options.addMember key value with
      | error error => rfl
      | ok next => exact ih hKeys.2

/-- With the key present once, the number is set on top of what the other members give. The position
of the key does not matter. -/
theorem addMembers_option (hBack : number.option ∉ back.map Prod.fst)
    (hCount : countOfJson number.option value = .ok count) :
    options.addMembers (front ++ (number.option, value) :: back) =
      (options.addMembers (front ++ back)).map fun next => number.set count next := by
  rw [addMembers_append, addMembers_append]
  cases options.addMembers front with
  | error error => rfl
  | ok next =>
      have hMember : next.addMembers ((number.option, value) :: back) =
          (next.addMembers back).map fun last => number.set count last := by
        rw [addMembers, number.addMember_option, hCount]
        exact number.addMembers_set hBack
      exact hMember

/-- Without the key of the limit there is no limit, so the check against zero never applies. -/
theorem ofJson_object_of_not_mem (hKeys : PageNumber.limit.option ∉ members.map Prod.fst) :
    ofJson (.object members) = empty.addMembers members := by
  have hUnset : (PageNumber.limit.set none empty).addMembers members = _ :=
    PageNumber.limit.addMembers_set hKeys
  have hEmpty : PageNumber.limit.set none empty = empty := rfl
  rw [hEmpty] at hUnset
  rw [ofJson, hUnset]
  cases empty.addMembers members with
  | error error => rfl
  | ok result => rfl

/-- Reading with the member agrees with reading without it and then setting the number. A limit of
zero is the only exception. -/
theorem ofJson_option (hFront : number.option ∉ front.map Prod.fst)
    (hBack : number.option ∉ back.map Prod.fst)
    (hCount : countOfJson number.option value = .ok count) :
    ofJson (.object (front ++ (number.option, value) :: back)) =
      (ofJson (.object (front ++ back)) >>= fun rest =>
        if number = .limit ∧ count = some 0 then malformed "limit" .zeroLimit
        else .ok (number.set count rest)) := by
  rw [ofJson, number.addMembers_option hBack hCount]
  cases number with
  | limit =>
      have hOthers : PageNumber.limit.option ∉ (front ++ back).map Prod.fst := by
        rw [List.map_append, List.mem_append]
        exact not_or.mpr ⟨hFront, hBack⟩
      rw [ofJson_object_of_not_mem hOthers]
      simp only [true_and]
      cases empty.addMembers (front ++ back) <;> rfl
  | offset =>
      rw [ofJson]
      simp only [reduceCtorEq, false_and, if_false]
      cases empty.addMembers (front ++ back) with
      | error error => rfl
      | ok rest =>
          -- Setting the offset leaves the limit as it was, and with it the answer to the test.
          simp only [Except.map, set, bind, Except.bind]
          split <;> rfl

/-- A malformed number is reported under its option, unless a member before it has already
failed. -/
theorem ofJson_option_of_malformed {fault : OptionFault}
    (hCount : countOfJson number.option value = malformed number.option fault) :
    ofJson (.object (front ++ (number.option, value) :: back)) =
      (empty.addMembers front >>= fun _ => malformed number.option fault) := by
  rw [ofJson, addMembers_append]
  simp only [addMembers, number.addMember_option, hCount]
  cases empty.addMembers front <;> rfl

/-- The body has the number exactly when the page has it, with the same value. -/
theorem get?_body (document : QueryDocument) :
    document.body.get? number.bodyKey = (number.get document.page).map Json.ofUInt64 := by
  have hBody := document.searches_body
  cases number with
  | limit => exact hBody.size
  | offset => exact hBody.start

/-- A compiled request carries the number that was read to the body of its search. -/
theorem get?_body_of_assembleJson (hFront : number.option ∉ front.map Prod.fst)
    (hBack : number.option ∉ back.map Prod.fst) {registry : Registry} {entity : String}
    {filters : Json} {search : CompiledSearch}
    (h : registry.assembleJson entity filters
      (.object (front ++ (number.option, value) :: back)) = .ok search) :
    ∃ word, countOfJson number.option value = .ok word ∧
      search.body.get? number.bodyKey = word.map Json.ofUInt64 := by
  obtain ⟨read, options, _, hOptions, hAssembled⟩ := Registry.assembleJson_eq_ok_iff.mp h
  cases hCount : countOfJson number.option value with
  | error error =>
      obtain ⟨fault, rfl⟩ := exists_fault_of_countOfJson hCount
      rw [number.ofJson_option_of_malformed hCount, bind_eq_ok_iff] at hOptions
      obtain ⟨_, _, hMalformed⟩ := hOptions
      cases hMalformed
  | ok word =>
      rw [number.ofJson_option hFront hBack hCount, bind_eq_ok_iff] at hOptions
      obtain ⟨rest, _, hSet⟩ := hOptions
      split at hSet
      · cases hSet
      · obtain rfl := Except.ok.inj hSet
        obtain ⟨config, _, _, rfl⟩ := Registry.assemble_eq_ok_iff.mp hAssembled
        refine ⟨word, rfl, ?_⟩
        rw [CompiledSearch.body, get?_body]
        cases number <;> rfl

end PageNumber

/-- Page numbers are read exactly, over all JSON values: a spelling of a number within a word, or of
none, sets just that number. A limit of zero is refused in any spelling; anything else is refused
under its option, unless a member before it has failed. The body of the search carries the number
on. -/
theorem page_numbers_exact (number : PageNumber) (front back : List (String × Json))
    (hFront : number.option ∉ front.map Prod.fst) (hBack : number.option ∉ back.map Prod.fst)
    (value : Json) :
    (∀ count : Option UInt64, value.SpellsCount (count.map UInt64.toNat) →
      ¬ (number = .limit ∧ count = some 0) →
      ofJson (.object (front ++ (number.option, value) :: back)) =
        (ofJson (.object (front ++ back))).map fun rest => number.set count rest) ∧
    (number = .limit → value.SpellsCount (some 0) →
      ofJson (.object (front ++ (number.option, value) :: back)) =
        (ofJson (.object (front ++ back)) >>= fun _ => malformed number.option .zeroLimit)) ∧
    ((∀ count : Option UInt64, ¬ value.SpellsCount (count.map UInt64.toNat)) →
      ∃ fault, ofJson (.object (front ++ (number.option, value) :: back)) =
        (empty.addMembers front >>= fun _ => malformed number.option fault)) ∧
    ∀ (registry : Registry) (entity : String) (filters : Json) (search : CompiledSearch),
      registry.assembleJson entity filters
          (.object (front ++ (number.option, value) :: back)) = .ok search →
        ∀ count, value.SpellsCount count → ∃ word : Option UInt64,
          count = word.map UInt64.toNat ∧
            search.body.get? number.bodyKey = word.map Json.ofUInt64 := by
  refine ⟨?_, ?_, ?_, ?_⟩
  · intro count hSpells hZero
    rw [number.ofJson_option hFront hBack ((countOfJson_eq_ok_iff _).mpr hSpells)]
    simp only [if_neg hZero]
    cases ofJson (.object (front ++ back)) <;> rfl
  · rintro rfl hSpells
    have hCount : countOfJson PageNumber.limit.option value = .ok (some 0) :=
      (countOfJson_eq_ok_iff _).mpr hSpells
    rw [PageNumber.limit.ofJson_option hFront hBack hCount]
    rfl
  · intro hSpells
    obtain ⟨fault, hCount⟩ := countOfJson_of_not_spellsCount number.option hSpells
    exact ⟨fault, number.ofJson_option_of_malformed hCount⟩
  · intro registry entity filters search hSearch count hSpells
    obtain ⟨word, hCount, hBody⟩ := number.get?_body_of_assembleJson hFront hBack hSearch
    exact ⟨word, spellsCount_unique hCount hSpells, hBody⟩

/-- Seven with a sign, zeros and white space. -/
def paddedSeven : Json :=
  .string "\u3000+007\n"

theorem paddedSeven_spellsCount : paddedSeven.SpellsCount (some 7) :=
  @Json.SpellsCount.text _ ['\u3000'] ['+'] ['0', '0', '7'] ['\n'] 7 (by decide)
    (List.all_eq_true.mp (by rfl)) (List.all_eq_true.mp (by rfl)) (.inr rfl)
    ⟨by decide, List.all_eq_true.mp (by rfl), by decide⟩

/-- A padded seven among other options is read as seven. A signed and padded zero limit is refused,
as is the first number beyond a word. -/
theorem paddedSeven_read :
    paddedSeven.SpellsCount (some 7) ∧
      ofJson (.object [("$text", .object []), ("limit", paddedSeven), ("sort", .null)]) =
        .ok ⟨[], some "", .empty, ⟨some 7, none⟩⟩ ∧
      (∃ search, taskRegistry.assembleJson "tasks" .null
          (.object [("$text", .object []), ("limit", paddedSeven), ("sort", .null)]) = .ok search ∧
        search.body.get? "size" = some (.ofUInt64 7)) ∧
      ofJson (.object [("limit", .string "+00")]) = malformed "limit" .zeroLimit ∧
      ∃ fault, ofJson (.object [("page_token", .string "18446744073709551616")]) =
        malformed "page_token" fault := by
  have hSeven := page_numbers_exact .limit [("$text", .object [])] [("sort", .null)] (by decide)
    (by decide) paddedSeven
  have hZero := page_numbers_exact .limit [] [] (by decide) (by decide) (.string "+00")
  have hLarge := page_numbers_exact .offset [] [] (by decide) (by decide)
    (.string "18446744073709551616")
  refine ⟨paddedSeven_spellsCount, ?_, ?_, ?_, ?_⟩
  · exact hSeven.1 (some 7) paddedSeven_spellsCount (by decide)
  · obtain ⟨search, hSearch⟩ : ∃ search, taskRegistry.assembleJson "tasks" .null
        (.object [("$text", .object []), ("limit", paddedSeven), ("sort", .null)]) = .ok search :=
      ⟨_, rfl⟩
    obtain ⟨word, hWord, hBody⟩ := hSeven.2.2.2 _ _ _ _ hSearch _ paddedSeven_spellsCount
    obtain ⟨seven, rfl, hValue⟩ := Option.map_eq_some_iff.mp hWord.symm
    obtain rfl : seven = 7 := UInt64.toNat_inj.mp hValue
    exact ⟨search, hSearch, hBody⟩
  · exact hZero.2.1 rfl (@Json.SpellsCount.text _ [] ['+'] ['0', '0'] [] 0 (by decide) nofun nofun
      (.inr rfl) ⟨by decide, List.all_eq_true.mp (by rfl), by decide⟩)
  · apply hLarge.2.2.1
    intro count hSpells
    have hRead := (countOfJson_eq_ok_iff "page_token").mpr hSpells
    cases hRead

end EntitySearch.SearchOptions
