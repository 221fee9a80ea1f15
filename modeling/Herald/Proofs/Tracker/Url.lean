import Herald.Http.Url
import Herald.Tracker.Url
import Mathlib.Data.List.DropRight

/-!
# URLs that stay with the tracker

The URL of a request goes on where the base URL of the tracker ends, with a path or with
nothing (`Under`). So it has the scheme and the authority of the base, however the path
was written that was asked for (`Confined`).

Main statements: every resolved URL is confined (`resolveUrl_confined`), exactly the
absolute URLs elsewhere are refused (`resolveUrl_eq_error_iff`), and a resolved URL resolves
to itself (`resolveUrl_resolved`).
-/

namespace Herald

namespace Text

theorem startsWith_iff {lead text : List Char} : startsWith lead text = true ↔ lead <+: text := by
  unfold startsWith
  rw [Option.isSome_iff_exists]
  constructor
  · intro given
    obtain ⟨rest, found⟩ := given
    exact ⟨rest, (after?_eq_some_iff.mp found).symm⟩
  · intro given
    obtain ⟨rest, rfl⟩ := given
    exact ⟨rest, after?_eq_some_iff.mpr rfl⟩

/-- What is dropped from the end is dropped from the second part, if the first does not end
with it. -/
theorem rdropWhile_append {p : Char → Bool} {front : List Char} (rest : List Char)
    (kept : ∀ last ∈ front.getLast?, p last = false) :
    (front ++ rest).rdropWhile p = front ++ rest.rdropWhile p := by
  induction rest using List.reverseRecOn with
  | nil =>
    rw [List.rdropWhile_nil, List.append_nil, List.rdropWhile_eq_self_iff]
    intro nonempty
    simp [kept _ (List.getLast?_eq_some_getLast nonempty)]
  | append_singleton rest last ih =>
    rw [← List.append_assoc, List.rdropWhile_concat, List.rdropWhile_concat, ih]
    split
    · rfl
    · rw [List.append_assoc]

theorem toList_withoutTrailingSlashes (url : String) :
    (withoutTrailingSlashes url).toList = dropTrailing '/' url.toList :=
  String.toList_ofList

/-- A list splits at the first element of a kind. -/
theorem span_append {p : Char → Bool} {front rest : List Char} (inside : ∀ c ∈ front, p c = true)
    (outside : ∀ c ∈ rest.head?, p c = false) :
    (front ++ rest).takeWhile p = front ∧ (front ++ rest).dropWhile p = rest := by
  rw [List.takeWhile_append_of_pos inside, List.dropWhile_append_of_pos inside]
  cases rest with
  | nil => simp
  | cons c tail => simp [outside c rfl]

end Text

namespace Http.Url

/-- The character cannot stand in an authority: it starts the path, the query or the
fragment. -/
def endsAuthority (c : Char) : Bool :=
  isSlash c || c ∈ ['?', '#']

theorem lt_of_endsAuthority {c : Char} (ends : endsAuthority c = true) : ' ' < c := by
  simp only [endsAuthority, isSlash, Bool.or_eq_true, decide_eq_true_eq, List.mem_cons,
    List.not_mem_nil, or_false] at ends
  rcases ends with (rfl | rfl) | (rfl | rfl) <;> decide

/-- A text without the blanks and controls at its end, and without the tabs and line ends
inside. -/
def trimmed (text : List Char) : List Char :=
  (text.rdropWhile (· ≤ ' ')).filter (· ∉ ['\t', '\n', '\r'])

/-- Nothing is cleaned away from the printed characters in front. -/
theorem cleaned_append {front : List Char} (nonempty : front ≠ []) (printed : ∀ c ∈ front, ' ' < c)
    (rest : List Char) : cleaned (front ++ rest) = front ++ trimmed rest := by
  have inner : ∀ c ∈ front, decide (c ≤ ' ') = false := by
    intro c member
    simpa using printed c member
  have started : (front ++ rest).dropWhile (fun c => decide (c ≤ ' ')) = front ++ rest := by
    obtain ⟨head, tail, rfl⟩ := List.exists_cons_of_ne_nil nonempty
    simp [inner head List.mem_cons_self]
  have ended := Text.rdropWhile_append (p := fun c => decide (c ≤ ' ')) rest fun last final =>
    inner last (List.mem_of_getLast? final)
  have kept : ∀ c ∈ front, decide (c ∉ ['\t', '\n', '\r']) = true := by
    intro c member
    have above := printed c member
    rw [decide_eq_true_iff]
    intro listed
    simp only [List.mem_cons, List.not_mem_nil, or_false] at listed
    rcases listed with rfl | rfl | rfl <;> revert above <;> decide
  unfold cleaned trimmed
  dsimp only
  rw [started]
  change ((front ++ rest).rdropWhile _).filter _ = _
  rw [ended, List.filter_append, List.filter_eq_self.mpr kept]

/-- A scheme is what stands before the first colon. -/
theorem span_colon {scheme : List Char} (colonless : ':' ∉ scheme) (rest : List Char) :
    (scheme ++ ':' :: rest).takeWhile (· != ':') = scheme ∧
      (scheme ++ ':' :: rest).dropWhile (· != ':') = ':' :: rest := by
  refine Text.span_append (fun c member => ?_) (by simp)
  rw [bne_iff_ne]
  rintro rfl
  exact colonless member

/-- The text is written as a URL with this scheme and this authority, which is not
empty. -/
structure HasOrigin (text scheme authority : List Char) : Prop where
  colonless : ':' ∉ scheme
  authority_ne : authority ≠ []
  authority_ends : ∀ c ∈ authority, endsAuthority c = false
  text_eq : ∃ rest, text = (scheme ++ "://".toList ++ authority) ++ rest ∧
    ∀ c ∈ rest.head?, endsAuthority c = true

namespace HasOrigin

variable {text scheme authority : List Char}

/-- The front of a URL ends as its authority does. -/
theorem getLast?_mem (origin : HasOrigin text scheme authority) {last : Char}
    (final : last ∈ (scheme ++ "://".toList ++ authority).getLast?) : last ∈ authority := by
  have present := List.getLast?_eq_some_getLast origin.authority_ne
  rw [List.getLast?_append, present, Option.some_or, Option.mem_some_iff] at final
  exact final ▸ List.getLast_mem origin.authority_ne

/-- The slashes at the end belong to neither the scheme nor the authority. -/
theorem dropTrailing_eq (origin : HasOrigin text scheme authority) :
    ∃ rest, Text.dropTrailing '/' text = (scheme ++ "://".toList ++ authority) ++ rest ∧
      ∀ c ∈ rest.head?, endsAuthority c = true := by
  obtain ⟨rest, rfl, ends⟩ := origin.text_eq
  refine ⟨rest.rdropWhile (· == '/'), Text.rdropWhile_append rest fun last final => ?_, ?_⟩
  · have inside := origin.authority_ends last (origin.getLast?_mem final)
    by_contra slash
    rw [Bool.not_eq_false, beq_iff_eq] at slash
    rw [slash] at inside
    cases inside
  · intro c first
    obtain ⟨dropped, whole⟩ := rest.rdropWhile_prefix (· == '/')
    refine ends c ?_
    rw [← whole, List.head?_append, Option.mem_def.mp first]
    rfl

theorem dropTrailing (origin : HasOrigin text scheme authority) :
    HasOrigin (Text.dropTrailing '/' text) scheme authority :=
  ⟨origin.colonless, origin.authority_ne, origin.authority_ends, origin.dropTrailing_eq⟩

/-- Going on with a path changes neither the scheme nor the authority. -/
theorem append (origin : HasOrigin text scheme authority) {path : List Char}
    (slash : ∀ c ∈ path.head?, c = '/') : HasOrigin (text ++ path) scheme authority := by
  obtain ⟨rest, rfl, ends⟩ := origin.text_eq
  refine ⟨origin.colonless, origin.authority_ne, origin.authority_ends, rest ++ path,
    List.append_assoc .., ?_⟩
  intro c first
  cases rest with
  | nil =>
    rw [slash c first]
    rfl
  | cons head tail => exact ends c first

/-- A lead that ends at a colon and two slashes is the scheme, and stays when the slashes at
the end of the text go. -/
theorem isPrefix_dropTrailing (origin : HasOrigin text scheme authority) (lead : List Char)
    (colonless : ':' ∉ lead) (leads : lead ++ "://".toList <+: text) :
    lead ++ "://".toList <+: Text.dropTrailing '/' text := by
  obtain ⟨rest, trimmed, -⟩ := origin.dropTrailing_eq
  obtain ⟨after, whole, -⟩ := origin.text_eq
  have same : lead = scheme := by
    obtain ⟨other, split⟩ := leads
    rw [whole, List.append_assoc, List.append_assoc, List.append_assoc] at split
    have first := (span_colon colonless ('/' :: '/' :: other)).1
    have second := (span_colon origin.colonless ('/' :: '/' :: (authority ++ after))).1
    exact first.symm.trans ((congrArg (List.takeWhile (· != ':')) split).trans second)
  rw [same, trimmed, List.append_assoc]
  exact List.prefix_append ..

/-- The blanks and controls that are cleaned away are around the text or after the
authority. -/
theorem clean (origin : HasOrigin text scheme authority)
    (printed : ∀ c ∈ scheme ++ authority, ' ' < c) :
    HasOrigin (cleaned text) scheme authority := by
  obtain ⟨rest, rfl, ends⟩ := origin.text_eq
  have separator : ∀ c ∈ "://".toList, ' ' < c := by simp
  have front : ∀ c ∈ scheme ++ "://".toList ++ authority, ' ' < c := by
    intro c member
    simp only [List.mem_append] at member printed
    rcases member with (member | member) | member
    · exact printed c (.inl member)
    · exact separator c member
    · exact printed c (.inr member)
  have nonempty : scheme ++ "://".toList ++ authority ≠ [] := by simp
  refine ⟨origin.colonless, origin.authority_ne, origin.authority_ends, ?_⟩
  cases rest with
  | nil => exact ⟨_, cleaned_append nonempty front [], by simp [trimmed]⟩
  | cons c tail =>
    have delimiter := ends c rfl
    have further : ∀ d ∈ scheme ++ "://".toList ++ authority ++ [c], ' ' < d := by
      intro d member
      rcases List.mem_append.mp member with member | member
      · exact front d member
      · rw [List.mem_singleton.mp member]
        exact lt_of_endsAuthority delimiter
    refine ⟨c :: trimmed tail, ?_, fun d first => ?_⟩
    · rw [List.append_cons, cleaned_append (by simp) further, ← List.append_cons]
    · cases first
      exact delimiter

/-- A URL whose scheme and authority hold no blank or control is taken apart as it is
written. -/
theorem ofText_eq {text : String} (origin : HasOrigin text.toList scheme authority)
    (printed : ∀ c ∈ scheme ++ authority, ' ' < c) :
    (ofText text).scheme = scheme ∧ (ofText text).authority = authority := by
  obtain ⟨rest, whole, ends⟩ := (origin.clean printed).text_eq
  rw [List.append_assoc, List.append_assoc] at whole
  have spanned := span_colon origin.colonless ('/' :: '/' :: (authority ++ rest))
  have located : ((cleaned text.toList).dropWhile (· != ':')).drop 1 =
      ['/', '/'] ++ (authority ++ rest) := by
    rw [whole]
    exact congrArg (List.drop 1) spanned.2
  have slashless : ∀ c ∈ (authority ++ rest).head?, isSlash c = false := by
    intro c first
    obtain ⟨head, tail, cons⟩ := List.exists_cons_of_ne_nil origin.authority_ne
    rw [cons] at first
    cases first
    have inside := origin.authority_ends c (by simp [cons])
    exact (Bool.or_eq_false_iff.mp inside).1
  have slashes : ∀ c ∈ ['/', '/'], isSlash c = true := by simp [isSlash]
  have place := (Text.span_append slashes slashless).2
  constructor
  · exact (congrArg (List.takeWhile (· != ':')) whole).trans spanned.1
  · change ((((cleaned text.toList).dropWhile (· != ':')).drop 1).dropWhile isSlash).takeWhile _ = _
    rw [located, place]
    refine (Text.span_append (fun c member => ?_) (fun c first => ?_)).1
    · have inside := origin.authority_ends c member
      simpa [endsAuthority] using inside
    · have outside := ends c first
      unfold endsAuthority at outside
      cases slash : isSlash c <;> simp_all

end HasOrigin

end Http.Url

/-- The URL goes on where the base URL ends, without the slashes at its end, with a path or
with nothing. -/
def Under (baseUrl url : String) : Prop :=
  ∃ rest, url.toList = (Text.withoutTrailingSlashes baseUrl).toList ++ rest ∧
    ∀ c ∈ rest.head?, c = '/'

/-- The URL lies under the base URL and belongs to the same server. -/
structure Confined (baseUrl url : String) : Prop where
  under : Under baseUrl url
  origin : ∀ scheme authority, Http.Url.HasOrigin baseUrl.toList scheme authority →
    Http.Url.HasOrigin url.toList scheme authority
  server : ∀ scheme authority, Http.Url.HasOrigin baseUrl.toList scheme authority →
    (∀ c ∈ scheme ++ authority, ' ' < c) →
    (Http.Url.ofText url).origin? = (Http.Url.ofText baseUrl).origin?

/-- The text starts with one of the two schemes. -/
def Schemed (text : String) : Prop :=
  "https://".toList <+: text.toList ∨ "http://".toList <+: text.toList

theorem isAbsoluteUrl_iff {path : String} : isAbsoluteUrl path.toList = true ↔ Schemed path := by
  unfold isAbsoluteUrl Schemed
  rw [Bool.or_eq_true, Text.startsWith_iff, Text.startsWith_iff]

theorem liesUnder_iff {baseUrl path : String} :
    liesUnder (Text.withoutTrailingSlashes baseUrl).toList path.toList = true ↔
      Under baseUrl path := by
  unfold liesUnder Under
  constructor
  · intro lies
    split at lies
    · rename_i rest found
      refine ⟨rest, Text.after?_eq_some_iff.mp found, fun c first => ?_⟩
      cases rest with
      | nil => cases first
      | cons head tail =>
        cases first
        exact beq_iff_eq.mp lies
    · cases lies
  · intro given
    obtain ⟨rest, whole, slash⟩ := given
    rw [Text.after?_eq_some_iff.mpr whole]
    cases rest with
    | nil => rfl
    | cons head tail => exact beq_iff_eq.mpr (slash head rfl)

/-- An absolute URL is taken as it is where it lies under the base, and any other path is
put under the base. -/
theorem resolveUrl_eq_ok_iff {baseUrl path url : String} :
    resolveUrl baseUrl path = .ok url ↔
      (Schemed path ∧ Under baseUrl path ∧ url = path) ∨
      (¬ Schemed path ∧ url = Text.withoutTrailingSlashes baseUrl ++ "/rest/api/" ++
        String.ofList (path.toList.dropWhile (· == '/'))) := by
  unfold resolveUrl
  dsimp only
  by_cases schemed : Schemed path
  · rw [if_pos (isAbsoluteUrl_iff.mpr schemed)]
    by_cases lies : Under baseUrl path
    · rw [if_pos (liesUnder_iff.mpr lies)]
      simp [schemed, lies, eq_comm]
    · rw [if_neg fun inside => lies (liesUnder_iff.mp inside)]
      simp [schemed, lies]
  · rw [if_neg fun absolute => schemed (isAbsoluteUrl_iff.mp absolute)]
    simp [schemed, eq_comm]

/-- Exactly the absolute URLs that do not lie under the base are refused. -/
theorem resolveUrl_eq_error_iff {baseUrl path : String} :
    (∃ e, resolveUrl baseUrl path = .error e) ↔ Schemed path ∧ ¬ Under baseUrl path := by
  have answered : (∃ e, resolveUrl baseUrl path = .error e) ↔
      ∀ url, resolveUrl baseUrl path ≠ .ok url := by
    cases resolveUrl baseUrl path <;> simp
  rw [answered]
  simp only [ne_eq, resolveUrl_eq_ok_iff]
  by_cases schemed : Schemed path <;> by_cases lies : Under baseUrl path <;> simp [schemed, lies]

theorem resolveUrl_under {baseUrl path url : String}
    (resolved : resolveUrl baseUrl path = .ok url) : Under baseUrl url := by
  rcases resolveUrl_eq_ok_iff.mp resolved with ⟨-, lies, rfl⟩ | ⟨-, rfl⟩
  · exact lies
  · refine ⟨_, by rw [String.toList_append, String.toList_append, List.append_assoc], ?_⟩
    intro c first
    cases first
    rfl

/-- What lies under a base has the scheme and the authority of the base. -/
theorem Under.confined {baseUrl url : String} (lies : Under baseUrl url) :
    Confined baseUrl url := by
  have origin : ∀ scheme authority, Http.Url.HasOrigin baseUrl.toList scheme authority →
      Http.Url.HasOrigin url.toList scheme authority := by
    intro scheme authority based
    obtain ⟨rest, whole, slash⟩ := lies
    rw [whole, Text.toList_withoutTrailingSlashes]
    exact based.dropTrailing.append slash
  refine ⟨lies, origin, fun scheme authority based printed => ?_⟩
  obtain ⟨scheme_eq, authority_eq⟩ := based.ofText_eq printed
  obtain ⟨scheme_eq', authority_eq'⟩ := (origin scheme authority based).ofText_eq printed
  unfold Http.Url.origin? Http.Url.place
  rw [scheme_eq, authority_eq, scheme_eq', authority_eq']

theorem resolveUrl_confined {baseUrl path url : String}
    (resolved : resolveUrl baseUrl path = .ok url) : Confined baseUrl url :=
  (resolveUrl_under resolved).confined

/-- With a base of one of the two schemes, what was resolved once is not changed by
resolving it again. -/
theorem resolveUrl_resolved {baseUrl path url : String} {scheme authority : List Char}
    (origin : Http.Url.HasOrigin baseUrl.toList scheme authority)
    (schemed : Schemed baseUrl) (resolved : resolveUrl baseUrl path = .ok url) :
    resolveUrl baseUrl url = .ok url := by
  have lies := resolveUrl_under resolved
  refine resolveUrl_eq_ok_iff.mpr (.inl ⟨?_, lies, rfl⟩)
  obtain ⟨rest, whole, -⟩ := lies
  have https : "https://".toList = "https".toList ++ "://".toList := by decide
  have http : "http://".toList = "http".toList ++ "://".toList := by decide
  unfold Schemed at schemed ⊢
  rw [https, http] at schemed ⊢
  rw [whole, Text.toList_withoutTrailingSlashes]
  rcases schemed with leads | leads
  · have kept := origin.isPrefix_dropTrailing "https".toList (by decide) leads
    exact .inl (kept.trans (List.prefix_append ..))
  · have kept := origin.isPrefix_dropTrailing "http".toList (by decide) leads
    exact .inr (kept.trans (List.prefix_append ..))

end Herald
