import NodeSupply.Cluster.Remote
import NodeSupply.Cluster.Store
import NodeSupply.Proofs.Cluster.Ownership
import NodeSupply.Proofs.Text.FormEncoding

/-! Selectors as texts. The text of a selector, taken apart at its separators, is the selector again, so
whoever evaluates the text finds the same objects as whoever compares labels. A listing sends the text
unless it selects everything. -/

namespace NodeSupply

namespace LabelSet

variable {selector other : LabelSet} {labels : Option LabelSet} {entry : String × String}

/-- Whether a text has neither of the separators of a selector's text. -/
def IsPlain (s : String) : Prop := ',' ∉ s.toList ∧ '=' ∉ s.toList

def ArePlain (selector : LabelSet) : Prop :=
  ∀ entry ∈ selector.entries, IsPlain entry.1 ∧ IsPlain entry.2

/-- The terms of a selector's text, each with its parts. The empty text has none. -/
def termsOf (text : String) : List (List (List Char)) :=
  if text = "" then [] else (text.toList.splitOn ',').map (List.splitOn '=')

/-- Whether an object with these labels, or without any, carries what each term of a text says. -/
def Satisfied (labels : Option LabelSet) (text : String) : Prop :=
  ∀ parts ∈ termsOf text, ∃ key value : String, parts = [key.toList, value.toList] ∧
    (labels.bind fun l => l.get? key) = some value

/-- The parts of the term of a label. -/
def partsOf (entry : String × String) : List (List Char) := [entry.1.toList, entry.2.toList]

theorem partsOf_injective : Function.Injective partsOf := by
  rintro ⟨key, value⟩ ⟨key', value'⟩ same
  simp only [partsOf, List.cons.injEq, and_true, String.toList_inj] at same
  exact Prod.ext same.1 same.2

theorem toList_term (entry : String × String) :
    (term entry).toList = entry.1.toList ++ '=' :: entry.2.toList := by
  rw [term, String.toList_append, String.toList_append, List.append_assoc]
  rfl

theorem splitOn_term (plain : IsPlain entry.1 ∧ IsPlain entry.2) :
    (term entry).toList.splitOn '=' = partsOf entry := by
  have joined : (term entry).toList = ['='].intercalate (partsOf entry) := by
    rw [toList_term, partsOf]
    simp [List.intercalate]
  rw [joined]
  refine List.splitOn_intercalate '=' ?_ (List.cons_ne_nil _ _)
  intro part member
  simp only [partsOf, List.mem_cons, List.not_mem_nil, or_false] at member
  rcases member with rfl | rfl
  · exact plain.1.2
  · exact plain.2.2

theorem comma_not_mem_term (plain : IsPlain entry.1 ∧ IsPlain entry.2) :
    ',' ∉ (term entry).toList := by
  rw [toList_term]
  simp only [List.mem_append, List.mem_cons, not_or]
  exact ⟨plain.1.1, by decide, plain.2.1⟩

theorem toList_selectorText (selector : LabelSet) :
    (selectorText selector).toList =
      [','].intercalate (selector.entries.map fun entry => (term entry).toList) := by
  rw [selectorText, String.toList_intercalate, List.map_map]
  rfl

/-- The text of a selector that asks for something comes apart into the labels it asks for, in key
order. -/
theorem split_selectorText (plain : ArePlain selector) (asks : selector ≠ .empty) :
    ((selectorText selector).toList.splitOn ',').map (List.splitOn '=') =
      selector.entries.map partsOf := by
  have entries : selector.entries ≠ [] := fun none => asks (KeyMap.ext none)
  rw [toList_selectorText, List.splitOn_intercalate ',', List.map_map]
  · exact List.map_congr_left fun entry member => splitOn_term (plain entry member)
  · intro text member
    obtain ⟨entry, inside, rfl⟩ := List.mem_map.mp member
    exact comma_not_mem_term (plain entry inside)
  · simpa using entries

theorem selectorText_ne_empty (plain : ArePlain selector) (asks : selector ≠ .empty) :
    selectorText selector ≠ "" := by
  intro none
  have split := split_selectorText plain asks
  rw [none] at split
  have parts : [[]] ∈ selector.entries.map partsOf := by
    rw [← split]
    exact List.mem_singleton.mpr rfl
  obtain ⟨entry, -, same⟩ := List.mem_map.mp parts
  exact absurd (congrArg List.length same) (by simp [partsOf])

theorem termsOf_selectorText (plain : ArePlain selector) :
    termsOf (selectorText selector) = selector.entries.map partsOf := by
  by_cases none : selector = .empty
  · rw [none]
    rfl
  · rw [termsOf, if_neg (selectorText_ne_empty plain none)]
    exact split_selectorText plain none

theorem selectorText_injective (plain : ArePlain selector) (plain' : ArePlain other)
    (same : selectorText selector = selectorText other) : selector = other := by
  have terms : selector.entries.map partsOf = other.entries.map partsOf := by
    rw [← termsOf_selectorText plain, ← termsOf_selectorText plain', same]
  exact KeyMap.ext (List.map_injective_iff.mpr partsOf_injective terms)

/-- The text of a selector says what the selector asks for. -/
theorem satisfied_iff_matched (plain : ArePlain selector) :
    Satisfied labels (selectorText selector) ↔ matched labels selector = true := by
  rw [Satisfied, termsOf_selectorText plain, matched_iff, List.forall_mem_map]
  constructor
  · intro satisfied key value asked
    obtain ⟨key', value', same, carried⟩ :=
      satisfied (key, value) (KeyMap.get?_eq_some_iff.mp asked)
    have entry : (key, value) = (key', value') := partsOf_injective same
    cases entry
    exact carried
  · intro carried entry member
    exact ⟨entry.1, entry.2, rfl, carried entry.1 entry.2 (KeyMap.get?_eq_some_iff.mpr member)⟩

end LabelSet

/-! ### Listings -/

namespace Remote

variable {selector : LabelSet} {collection : String} {c : Call}

/-- The value of a parameter of a query, if it is the parameter of that name. -/
def parameter? (name : String) (part : List Char) : Option (List Char) :=
  match Text.cutAt '=' part with
  | some (key, value) => if key = name.toList then some value else none
  | none => none

/-- The selector that a target carries in its query, as the one who is asked reads it. -/
def sentSelector? (target : String) : Option String :=
  let query := (target.toList.dropWhile (· ≠ '?')).drop 1
  ((query.splitOn '&').findSome? (parameter? "labelSelector")).bind Text.formText?

/-- The query of a listing, from which the question mark is left out. -/
def listQuery (selector : LabelSet) : String :=
  if selector.isEmpty then ""
  else "&labelSelector=" ++ Text.formEncode (LabelSet.selectorText selector)

def listText (collection : String) (selector : LabelSet) : String :=
  collection ++ "?" ++ listQuery selector

/-- What a call lists, and the selector that it lists by. -/
def listing? : Call → Option (String × LabelSet)
  | .listNodeClaims selector => some (claimsPath, selector)
  | .listNodes selector => some (nodesPath, selector)
  | .getNodeClaim _ | .createNodeClaim _ | .deleteNodeClaim _ | .nodeClassExists _ _
  | .createNodeClass _ => none

theorem toList_listText (collection : String) (selector : LabelSet) :
    (listText collection selector).toList =
      collection.toList ++ '?' :: (listQuery selector).toList := by
  rw [listText, String.toList_append, String.toList_append, List.append_assoc]
  rfl

theorem toList_listQuery (asks : selector.isEmpty = false) :
    (listQuery selector).toList = '&' :: ("labelSelector".toList ++
      '=' :: (Text.formEncode (LabelSet.selectorText selector)).toList) := by
  rw [listQuery, asks, if_neg Bool.false_ne_true, String.toList_append]
  rfl

theorem isQueryChar_of_isFormChar {c : Char} (form : Text.isFormChar c = true) :
    isQueryChar c = true := by
  simp only [Text.isFormChar, isQueryChar, Bool.or_eq_true, Bool.and_eq_true, decide_eq_true_eq,
    Bool.not_eq_true', Bool.or_eq_false_iff, decide_eq_false_iff_not] at form ⊢
  omega

theorem isQueryChar_of_mem_listQuery {c : Char} (member : c ∈ (listQuery selector).toList) :
    isQueryChar c = true := by
  cases none : selector.isEmpty with
  | true =>
      rw [listQuery, none] at member
      cases member
  | false =>
      have fixed : ∀ c ∈ '&' :: "labelSelector".toList, isQueryChar c = true :=
        List.all_eq_true.mp (by decide)
      have equals : isQueryChar '=' = true := by decide
      rw [toList_listQuery none, ← List.cons_append] at member
      rcases List.mem_append.mp member with inside | inside
      · exact fixed c inside
      · rcases List.mem_cons.mp inside with same | inside
        · rwa [same]
        · exact isQueryChar_of_isFormChar (Text.isFormChar_of_mem_formEncode inside)

/-- A path ends where the query begins. -/
theorem cut_listText (path : ∀ c ∈ collection.toList, isPathChar c = true) (selector : LabelSet) :
    (listText collection selector).toList.takeWhile (· ≠ '?') = collection.toList ∧
      (listText collection selector).toList.dropWhile (· ≠ '?') =
        '?' :: (listQuery selector).toList := by
  have noMark : ∀ c ∈ collection.toList, (c ≠ '?' : Bool) = true := by
    intro c member
    refine decide_eq_true ?_
    rintro rfl
    exact absurd (path '?' member) (by decide)
  rw [toList_listText]
  constructor
  · rw [List.takeWhile_append_of_pos noMark, List.takeWhile_cons_of_neg (by decide),
      List.append_nil]
  · rw [List.dropWhile_append_of_pos noMark, List.dropWhile_cons_of_neg (by decide)]

/-- A listing can be sent unless its target is too long. -/
theorem listTarget?_eq (path : ∀ c ∈ collection.toList, isPathChar c = true) :
    listTarget? collection selector =
      if (listText collection selector).utf8ByteSize ≤ greatestTargetSize then
        some (listText collection selector)
      else none := by
  have noHash : (listText collection selector).toList.takeWhile (· ≠ '#') =
      (listText collection selector).toList := by
    refine List.takeWhile_eq_self_iff.mpr fun c member => decide_eq_true ?_
    rw [toList_listText, List.mem_append, List.mem_cons] at member
    rintro rfl
    rcases member with inside | same | inside
    · exact absurd (path '#' inside) (by decide)
    · exact absurd same (by decide)
    · exact absurd (isQueryChar_of_mem_listQuery inside) (by decide)
  have pathFine : collection.toList.all isPathChar = true := List.all_eq_true.mpr path
  have queryFine : (listQuery selector).toList.all isQueryChar = true :=
    List.all_eq_true.mpr fun c => isQueryChar_of_mem_listQuery
  obtain ⟨before, behind⟩ := cut_listText path selector
  change target? (listText collection selector) = _
  simp only [target?, noHash, String.ofList_toList]
  rw [before, behind, List.drop_one, List.tail_cons, pathFine, queryFine]
  simp

/-- The selector of a listing is read back from its query, in which there is none for the selector of
everything. -/
theorem sentSelector?_listText (path : ∀ c ∈ collection.toList, isPathChar c = true) :
    sentSelector? (listText collection selector) =
      if selector = .empty then none else some (LabelSet.selectorText selector) := by
  rw [sentSelector?, (cut_listText path selector).2, List.drop_one, List.tail_cons]
  by_cases none : selector = .empty
  · rw [if_pos none, none]
    rfl
  · have asks : selector.isEmpty = false :=
      Bool.eq_false_iff.mpr fun empty => none (KeyMap.eq_empty_of_isEmpty empty)
    let form := (Text.formEncode (LabelSet.selectorText selector)).toList
    let argument := "labelSelector".toList ++ '=' :: form
    have joined : (listQuery selector).toList = ['&'].intercalate [[], argument] := by
      rw [toList_listQuery asks, List.intercalate]
      exact (List.append_nil _).symm
    have noJoin : ∀ part ∈ [[], argument], '&' ∉ part := by
      intro part member inside
      rw [List.mem_cons, List.mem_singleton] at member
      rcases member with rfl | rfl
      · cases inside
      · rw [List.mem_append, List.mem_cons] at inside
        rcases inside with name | equals | inside
        · exact absurd name (by decide)
        · exact absurd equals (by decide)
        · exact absurd (Text.isFormChar_of_mem_formEncode inside) (by decide)
    have parameter : parameter? "labelSelector" argument = some form := by
      rw [parameter?, Text.cutAt_append (by decide)]
      exact if_pos rfl
    rw [if_neg none, joined, List.splitOn_intercalate '&' noJoin (List.cons_ne_nil _ _)]
    have first : parameter? "labelSelector" [] = Option.none := rfl
    rw [List.findSome?_cons, first, List.findSome?_cons, parameter]
    exact Text.formText?_formEncode _

theorem request?_of_listing {c : Call} (listing : listing? c = some (collection, selector)) :
    (∀ a ∈ collection.toList, isPathChar a = true) ∧
      request? c = (listTarget? collection selector).map fun target => ⟨"GET", target, none⟩ := by
  have claims : ∀ a ∈ claimsPath.toList, isPathChar a = true :=
    List.all_eq_true.mp (by decide)
  have nodes : ∀ a ∈ nodesPath.toList, isPathChar a = true :=
    List.all_eq_true.mp (by decide)
  cases c with
  | listNodeClaims =>
      cases listing
      exact ⟨claims, rfl⟩
  | listNodes =>
      cases listing
      exact ⟨nodes, rfl⟩
  | getNodeClaim | createNodeClaim | deleteNodeClaim | nodeClassExists | createNodeClass =>
      cases listing

/-- A listing becomes a request unless its text is too long. The request carries the text of the selector,
or nothing if the selector asks for nothing. -/
theorem request?_eq_some_iff {c : Call} (listing : listing? c = some (collection, selector))
    (request : HttpRequest) :
    request? c = some request ↔
      (listText collection selector).utf8ByteSize ≤ greatestTargetSize ∧
        request = ⟨"GET", listText collection selector, none⟩ := by
  obtain ⟨path, made⟩ := request?_of_listing listing
  rw [made, listTarget?_eq path]
  split
  · next fits =>
    rw [Option.map_some, Option.some_inj, eq_comm]
    exact (and_iff_right fits).symm
  · next long =>
    rw [Option.map_none]
    exact ⟨nofun, fun fits => absurd fits.1 long⟩

theorem sentSelector?_of_request {c : Call} {request : HttpRequest}
    (listing : listing? c = some (collection, selector)) (sent : request? c = some request) :
    sentSelector? request.target =
      if selector = .empty then none else some (LabelSet.selectorText selector) := by
  rw [((request?_eq_some_iff listing request).mp sent).2]
  exact sentSelector?_listText (request?_of_listing listing).1

/-- Whether an object with these labels, or without any, is among those that a target asks for. -/
def AskedFor (target : String) (labels : Option LabelSet) : Prop :=
  ∀ text, sentSelector? target = some text → LabelSet.Satisfied labels text

theorem askedFor_iff_matched {c : Call} {request : HttpRequest} (plain : LabelSet.ArePlain selector)
    (listing : listing? c = some (collection, selector)) (sent : request? c = some request)
    (labels : Option LabelSet) :
    AskedFor request.target labels ↔ LabelSet.matched labels selector = true := by
  rw [← LabelSet.satisfied_iff_matched plain, AskedFor, sentSelector?_of_request listing sent]
  by_cases none : selector = .empty
  · rw [if_pos none, none]
    exact ⟨fun _ => nofun, fun _ => nofun⟩
  · rw [if_neg none]
    exact ⟨fun asked => asked _ rfl, fun satisfied _ same => Option.some_inj.mp same ▸ satisfied⟩

end Remote

namespace LabelSet

variable {selector : LabelSet}

/-- What a selector asks for, its text says. -/
structure SaidByText (selector : LabelSet) : Prop where
  /-- A text without terms is empty. -/
  nothing : selector = .empty → selectorText selector = ""
  /-- The labels come in ascending key order. -/
  parts : selector ≠ .empty →
    ((selectorText selector).toList.splitOn ',').map (List.splitOn '=') =
      selector.entries.map partsOf ∧ selector.keys.Pairwise (· < ·)
  distinct : ∀ other, ArePlain other → selectorText other = selectorText selector → other = selector
  satisfied : ∀ labels, Satisfied labels (selectorText selector) ↔ matched labels selector = true

/-- A listing by a selector finds the same objects in a store as behind an API server. -/
structure ListedAlike (selector : LabelSet) : Prop where
  claims : ∀ (s : Store) claim, claim ∈ s.matchingClaims selector ↔
    claim ∈ s.claims.values ∧ Satisfied claim.labels (selectorText selector)
  nodes : ∀ (s : Store) node, node ∈ s.matchingNodes selector ↔
    node ∈ s.nodes ∧ Satisfied node.labels (selectorText selector)
  /-- A request fails to be made only for its length. -/
  sendable : ∀ c collection, Remote.listing? c = some (collection, selector) →
    ((Remote.request? c).isSome = true ↔
      (Remote.listText collection selector).utf8ByteSize ≤ Remote.greatestTargetSize)
  sent : ∀ c collection request, Remote.listing? c = some (collection, selector) →
    Remote.request? c = some request →
      Remote.sentSelector? request.target =
        if selector = .empty then none else some (selectorText selector)
  asked : ∀ c collection request, Remote.listing? c = some (collection, selector) →
    Remote.request? c = some request →
      ∀ labels, Remote.AskedFor request.target labels ↔ matched labels selector = true
  /-- A selector that is not sent matches everything. -/
  everything : selector = .empty → ∀ labels, matched labels selector = true

theorem saidByText (plain : ArePlain selector) : SaidByText selector where
  nothing none := by
    rw [none]
    rfl
  parts asks := ⟨split_selectorText plain asks, selector.keys_ascending⟩
  distinct _ plain' same := selectorText_injective plain' plain same
  satisfied _ := satisfied_iff_matched plain

theorem listedAlike (plain : ArePlain selector) : ListedAlike selector where
  claims s claim := by
    rw [Store.matchingClaims, List.mem_filter, satisfied_iff_matched plain]
  nodes s node := by
    rw [Store.matchingNodes, List.mem_filter, satisfied_iff_matched plain]
  sendable c collection listing := by
    rw [Option.isSome_iff_exists]
    simp only [Remote.request?_eq_some_iff listing, exists_and_left, exists_eq, and_true]
  sent _ _ _ listing sent := Remote.sentSelector?_of_request listing sent
  asked _ _ _ listing sent := Remote.askedFor_iff_matched plain listing sent
  everything none labels := by
    rw [none]
    rfl

/-- The text of a selector means what the selector matches, in a store as behind an API server. -/
theorem text_means_match (plain : ArePlain selector) :
    SaidByText selector ∧ ListedAlike selector :=
  ⟨saidByText plain, listedAlike plain⟩

/-- A selector with an empty value. Its listing asks for a node with both labels, and not for one
without any. -/
theorem text_means_match_of_empty_value :
    let selector : LabelSet := .ofList [("tier", "gpu"), ("spot", "")]
    let target := "/api/v1/nodes?&labelSelector=spot%3D%2Ctier%3Dgpu"
    ArePlain selector ∧ selectorText selector = "spot=,tier=gpu" ∧
      (Remote.request? (.listNodes selector)).map (·.target) = some target ∧
      Remote.AskedFor target (some selector) ∧ ¬Remote.AskedFor target none := by
  intro selector target
  have plain : ArePlain selector := by
    unfold ArePlain IsPlain
    decide
  have sent : Remote.request? (.listNodes selector) = some ⟨"GET", target, none⟩ := by
    have form : Text.formEncode (selectorText selector) = "spot%3D%2Ctier%3Dgpu" := by
      rw [Text.formEncode, Text.byteList_eq]
      decide
    have whole : Remote.listText Remote.nodesPath selector = target := by
      rw [Remote.listText, Remote.listQuery, form]
      decide
    rw [Remote.request?_eq_some_iff rfl, whole]
    exact ⟨by decide, rfl⟩
  have asked := (text_means_match plain).2.asked (.listNodes selector) Remote.nodesPath _ rfl sent
  refine ⟨plain, by decide, by rw [sent]; rfl, (asked _).mpr (by decide), fun none => ?_⟩
  exact absurd ((asked _).mp none) (by decide)

end LabelSet

end NodeSupply
