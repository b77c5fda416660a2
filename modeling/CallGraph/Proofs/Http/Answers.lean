import CallGraph.Http.Client
import CallGraph.Proofs.Listing
import CallGraph.Proofs.Maven.Search

/-! Final answers. A request for an address is led from answer to answer until
one does not point elsewhere, or until something goes wrong. Repositories are
passed over when the final answer is that there is nothing, when it reports an
error, or when there is none. Of every other final answer the body is taken for
contents, though it need not be a success. A limit to the time that cannot be
kept shows only when an address is asked for, and is no matter of the
repository. -/
namespace CallGraph.Http
open Maven (Coordinate PassedOver fails fetchFirst fetchPom fetchJar pomUrls jarUrls)

variable {exchange : Exchange} {url last : Url} {text : String} {body : Octets}

/-! Being led on. -/

/-- The answer points to a location. -/
def PointsTo (response : Response) (location : String) : Prop :=
  response.location = some location ∧ response.status ∈ redirectStatuses

/-- Some answers, one after the other, lead from one address to another. -/
inductive Leads (exchange : Exchange) : Url → Nat → Url → Prop
  | here (url : Url) : Leads exchange url 0 url
  | on {url target last : Url} {response : Response} {location : String} {n : Nat}
      (answered : exchange url.text = some (.ok response)) (points : PointsTo response location)
      (there : redirectTarget url location = .ok target) (further : Leads exchange target n last) :
      Leads exchange url (n + 1) last

/-- How a request ends at an address, when some more answers may be followed. -/
inductive Ends (exchange : Exchange) (last : Url) (left : Nat) :
    Except RequestError Response → Prop
  | unkept (endless : exchange last.text = none) : Ends exchange last left (.error .limitTooLong)
  | unreached {reason : String} (refused : exchange last.text = some (.error reason)) :
      Ends exchange last left (.error (.protocol reason))
  | final {response : Response} (answered : exchange last.text = some (.ok response))
      (stays : ∀ location, ¬ PointsTo response location) : Ends exchange last left (.ok response)
  | astray {response : Response} {location : String} {e : RequestError}
      (answered : exchange last.text = some (.ok response)) (points : PointsTo response location)
      (nowhere : redirectTarget last location = .error e) : Ends exchange last left (.error e)
  | tooFar {response : Response} {location : String} {target : Url}
      (answered : exchange last.text = some (.ok response)) (points : PointsTo response location)
      (there : redirectTarget last location = .ok target) (none : left = 0) :
      Ends exchange last left (.error (.protocol "Exceeded maximum allowed redirects."))

/-- An answer that points elsewhere is followed, if that can be done. -/
theorem follow_of_points {response : Response} {location : String} (fuel : Nat)
    (answered : exchange url.text = some (.ok response)) (points : PointsTo response location) :
    (follow exchange fuel url).2 =
      match redirectTarget url location, fuel with
      | .error e, _ => .error e
      | .ok _, 0 => .error (.protocol "Exceeded maximum allowed redirects.")
      | .ok target, fuel + 1 => (follow exchange fuel target).2 := by
  have redirects : redirectStatuses.contains response.status = true :=
    List.contains_iff_mem.2 points.2
  conv_lhs => unfold follow
  rw [answered]
  dsimp only
  rw [points.1]
  dsimp only
  rw [redirects]
  cases redirectTarget url location with
  | error e => rfl
  | ok target => cases fuel <;> rfl

/-- Where a request ends, that is what following answers comes to. -/
theorem follow_of_ends {fuel : Nat} {result : Except RequestError Response}
    (ended : Ends exchange url fuel result) : (follow exchange fuel url).2 = result := by
  cases ended with
  | unkept endless =>
    unfold follow
    rw [endless]
  | unreached refused =>
    unfold follow
    rw [refused]
  | @final response answered stays =>
    unfold follow
    rw [answered]
    dsimp only
    split
    · rfl
    · next location there =>
      have other : redirectStatuses.contains response.status = false := by
        simpa [PointsTo, there] using stays
      rw [other]
      rfl
  | astray answered points nowhere => rw [follow_of_points fuel answered points, nowhere]
  | tooFar answered points there none =>
    subst none
    rw [follow_of_points 0 answered points, there]

/-- A request ends at an address, or is led on. -/
theorem ends_or_points (exchange : Exchange) (url : Url) (fuel : Nat) :
    (∃ result, Ends exchange url fuel result) ∨ ∃ response location target,
      exchange url.text = some (.ok response) ∧ PointsTo response location ∧
        redirectTarget url location = .ok target ∧ fuel ≠ 0 := by
  rcases answered : exchange url.text with _ | reason | response
  · exact .inl ⟨_, .unkept answered⟩
  · exact .inl ⟨_, .unreached answered⟩
  · by_cases points : ∃ location, PointsTo response location
    · obtain ⟨location, points⟩ := points
      cases there : redirectTarget url location with
      | error e => exact .inl ⟨_, .astray answered points there⟩
      | ok target =>
        by_cases none : fuel = 0
        · exact .inl ⟨_, .tooFar answered points there none⟩
        · exact .inr ⟨response, location, target, rfl, points, there, none⟩
    · exact .inl ⟨_, .final answered fun location here => points ⟨location, here⟩⟩

/-- Following answers comes to what the request ends with where it is led to. -/
theorem follow_eq_iff {fuel : Nat} {result : Except RequestError Response} :
    (follow exchange fuel url).2 = result ↔
      ∃ n last, n ≤ fuel ∧ Leads exchange url n last ∧ Ends exchange last (fuel - n) result := by
  constructor
  · rintro rfl
    -- An address that is led on uses up one of the answers that may be followed.
    induction fuel generalizing url with
    | zero =>
      obtain ⟨result, ended⟩ | ⟨_, _, _, -, -, -, some⟩ := ends_or_points exchange url 0
      · exact ⟨0, url, le_rfl, .here url, follow_of_ends ended ▸ ended⟩
      · exact absurd rfl some
    | succ fuel ih =>
      obtain ⟨result, ended⟩ | ⟨response, location, target, answered, points, there, -⟩ :=
        ends_or_points exchange url (fuel + 1)
      · exact ⟨0, url, Nat.zero_le _, .here url, follow_of_ends ended ▸ ended⟩
      · obtain ⟨n, last, bound, led, ended⟩ := @ih target
        rw [follow_of_points (fuel + 1) answered points, there]
        exact ⟨n + 1, last, Nat.succ_le_succ bound, .on answered points there led, by
          rwa [Nat.add_sub_add_right]⟩
  · rintro ⟨n, last, bound, led, ended⟩
    -- The bound leaves an answer to follow for every one that was given.
    induction led generalizing fuel with
    | here url => exact follow_of_ends ended
    | on answered points there further ih =>
      obtain ⟨fuel, rfl⟩ := Nat.exists_eq_add_of_le' (Nat.one_le_iff_ne_zero.2
        (Nat.ne_of_gt (Nat.lt_of_lt_of_le (Nat.succ_pos _) bound)))
      rw [follow_of_points (fuel + 1) answered points, there]
      rw [Nat.add_sub_add_right] at ended
      exact ih (Nat.le_of_succ_le_succ bound) ended

/-! What a request comes to. -/

/-- A request for the text is led to an address where it ends. -/
def ComesTo (exchange : Exchange) (text : String) (result : Except RequestError Response) : Prop :=
  ∃ url n last, addressOf text = .ok url ∧ n ≤ maxRedirects ∧ Leads exchange url n last ∧
    Ends exchange last (maxRedirects - n) result

/-- The text is no address, or leads to one that is none. -/
def Unaskable (exchange : Exchange) (text : String) : Prop :=
  (∃ defect, addressOf text = .error defect) ∨
    ∃ defect, ComesTo exchange text (.error (.invalid defect))

/-- The limit to the time turns out to be one that cannot be kept. -/
def Unkept (exchange : Exchange) (text : String) : Prop :=
  ComesTo exchange text (.error .limitTooLong)

/-- Statuses of success. -/
def IsSuccess (status : Nat) : Prop := 200 ≤ status ∧ status < 300

/-- Statuses of errors. -/
def IsError (status : Nat) : Prop := 400 ≤ status ∧ status < 600

/-- The final answer is that there is nothing. -/
def Absent (exchange : Exchange) (text : String) : Prop :=
  ∃ response, ComesTo exchange text (.ok response) ∧ response.status ∈ absentStatuses

/-- There is no final answer, or it reports another error. -/
def Failed (exchange : Exchange) (text : String) : Prop :=
  (∃ reason, ComesTo exchange text (.error (.protocol reason))) ∨
  ∃ response, ComesTo exchange text (.ok response) ∧ response.status ∉ absentStatuses ∧
    IsError response.status

/-- The final answer is neither, and has the body. -/
def Gives (exchange : Exchange) (text : String) (body : Octets) : Prop :=
  ∃ response, ComesTo exchange text (.ok response) ∧ response.body = body ∧
    response.status ∉ absentStatuses ∧ ¬ IsError response.status

theorem fetcher_contents (exchange : Exchange) (text : String) :
    (fetcherOf exchange text).contents =
      match addressOf text with
      | .error defect => .error (.failure (.invalidUrl text defect.message))
      | .ok url => contentsOf text (follow exchange maxRedirects url).2 := by
  show (match addressOf text with
    | .error _ => _
    | .ok url => _ : Maven.Fetched).contents = _
  cases addressOf text <;> rfl

theorem contents_of_comesTo {result : Except RequestError Response}
    (comes : ComesTo exchange text result) :
    (fetcherOf exchange text).contents = contentsOf text result := by
  obtain ⟨url, n, last, asked, bound, led, ended⟩ := comes
  rw [fetcher_contents, asked, ← follow_eq_iff.2 ⟨n, last, bound, led, ended⟩]

theorem contents_of_unaskable (unaskable : Unaskable exchange text) :
    ∃ reason, (fetcherOf exchange text).contents = .error (.failure (.invalidUrl text reason)) := by
  obtain ⟨defect, none⟩ | ⟨defect, astray⟩ := unaskable
  · exact ⟨defect.message, by rw [fetcher_contents, none]⟩
  · exact ⟨defect.message, contents_of_comesTo astray⟩

theorem contents_of_unkept (unkept : Unkept exchange text) :
    (fetcherOf exchange text).contents = .error (.fault .limitTooLong) :=
  contents_of_comesTo unkept

theorem contents_of_absent (absent : Absent exchange text) :
    (fetcherOf exchange text).contents = .error (.failure (.nothingAt text)) := by
  obtain ⟨response, comes, status⟩ := absent
  rw [contents_of_comesTo comes]
  simp only [contentsOf, readResponse, List.contains_iff_mem.2 status, if_true]

theorem contents_of_failed (failed : Failed exchange text) :
    ∃ reason,
      (fetcherOf exchange text).contents = .error (.failure (.unreachable text reason)) := by
  obtain ⟨reason, comes⟩ | ⟨response, comes, other, status⟩ := failed
  · exact ⟨reason, contents_of_comesTo comes⟩
  · have isError : 400 ≤ response.status ∧ response.status < 600 := status
    refine ⟨"HTTP " ++ response.status.repr, (contents_of_comesTo comes).trans ?_⟩
    simp only [contentsOf, readResponse, List.contains_iff_mem, other, if_false, if_pos isError]

theorem contents_of_gives (gives : Gives exchange text body) :
    (fetcherOf exchange text).contents = .ok body := by
  obtain ⟨response, comes, rfl, other, status⟩ := gives
  have noError : ¬ (400 ≤ response.status ∧ response.status < 600) := status
  rw [contents_of_comesTo comes]
  simp only [contentsOf, readResponse, List.contains_iff_mem, other, if_false, if_neg noError]

theorem not_failed_of_absent (absent : Absent exchange text) : ¬ Failed exchange text := by
  intro failed
  obtain ⟨reason, refused⟩ := contents_of_failed failed
  cases refused.symm.trans (contents_of_absent absent)

/-- A request comes to one of five things. -/
theorem request_cases (exchange : Exchange) (text : String) :
    Unaskable exchange text ∨ Unkept exchange text ∨ Absent exchange text ∨
      Failed exchange text ∨ ∃ body, Gives exchange text body := by
  cases asked : addressOf text with
  | error defect => exact .inl (.inl ⟨defect, asked⟩)
  | ok url =>
    have comes : ComesTo exchange text (follow exchange maxRedirects url).2 := by
      obtain ⟨n, last, bound, led, ended⟩ :=
        follow_eq_iff.1 (Eq.refl (follow exchange maxRedirects url).2)
      exact ⟨url, n, last, asked, bound, led, ended⟩
    cases result : (follow exchange maxRedirects url).2 with
    | error e =>
      rw [result] at comes
      cases e with
      | invalid defect => exact .inl (.inr ⟨defect, comes⟩)
      | limitTooLong => exact .inr (.inl comes)
      | protocol reason => exact .inr (.inr (.inr (.inl (.inl ⟨reason, comes⟩))))
    | ok response =>
      rw [result] at comes
      by_cases absent : response.status ∈ absentStatuses
      · exact .inr (.inr (.inl ⟨response, comes, absent⟩))
      · by_cases isError : IsError response.status
        · exact .inr (.inr (.inr (.inl (.inr ⟨response, comes, absent, isError⟩))))
        · exact .inr (.inr (.inr (.inr ⟨_, response, comes, rfl, absent, isError⟩)))

theorem contents_eq_ok_iff :
    (fetcherOf exchange text).contents = .ok body ↔ Gives exchange text body := by
  refine ⟨fun served => ?_, contents_of_gives⟩
  obtain unaskable | unkept | absent | failed | ⟨body', gives⟩ := request_cases exchange text
  · obtain ⟨reason, refused⟩ := contents_of_unaskable unaskable
    cases served.symm.trans refused
  · cases served.symm.trans (contents_of_unkept unkept)
  · cases served.symm.trans (contents_of_absent absent)
  · obtain ⟨reason, refused⟩ := contents_of_failed failed
    cases served.symm.trans refused
  · obtain rfl := Except.ok.inj (served.symm.trans (contents_of_gives gives))
    exact gives

theorem contents_eq_fault_iff {fault : Fault} :
    (fetcherOf exchange text).contents = .error (.fault fault) ↔
      fault = .limitTooLong ∧ Unkept exchange text := by
  constructor
  · intro ended
    obtain unaskable | unkept | absent | failed | ⟨body, gives⟩ := request_cases exchange text
    · obtain ⟨reason, refused⟩ := contents_of_unaskable unaskable
      cases ended.symm.trans refused
    · cases ended.symm.trans (contents_of_unkept unkept)
      exact ⟨rfl, unkept⟩
    · cases ended.symm.trans (contents_of_absent absent)
    · obtain ⟨reason, refused⟩ := contents_of_failed failed
      cases ended.symm.trans refused
    · cases ended.symm.trans (contents_of_gives gives)
  · rintro ⟨rfl, unkept⟩
    exact contents_of_unkept unkept

/-- Repositories are passed over exactly if there is nothing, or if they fail. -/
theorem passedOver_iff :
    PassedOver (fetcherOf exchange) text ↔ Absent exchange text ∨ Failed exchange text := by
  constructor
  · rintro ⟨stop, refused, goesOn⟩
    obtain unaskable | unkept | absent | failed | ⟨body, gives⟩ := request_cases exchange text
    · obtain ⟨reason, refused'⟩ := contents_of_unaskable unaskable
      obtain rfl := Except.error.inj (refused.symm.trans refused')
      exact absurd rfl goesOn
    · obtain rfl := Except.error.inj (refused.symm.trans (contents_of_unkept unkept))
      exact absurd rfl goesOn
    · exact .inl absent
    · exact .inr failed
    · cases refused.symm.trans (contents_of_gives gives)
  · rintro (absent | failed)
    · exact ⟨_, contents_of_absent absent, nofun⟩
    · obtain ⟨reason, refused⟩ := contents_of_failed failed
      exact ⟨_, refused, nofun⟩

theorem fails_iff : fails (fetcherOf exchange) text = true ↔ Failed exchange text := by
  constructor
  · intro noted
    unfold fails at noted
    obtain unaskable | unkept | absent | failed | ⟨body, gives⟩ := request_cases exchange text
    · obtain ⟨reason, refused⟩ := contents_of_unaskable unaskable
      rw [refused] at noted
      cases noted
    · rw [contents_of_unkept unkept] at noted
      cases noted
    · rw [contents_of_absent absent] at noted
      cases noted
    · exact failed
    · rw [contents_of_gives gives] at noted
      cases noted
  · intro failed
    obtain ⟨reason, refused⟩ := contents_of_failed failed
    rw [fails, refused]
    rfl

/-! Searches. -/

/-- Addresses are passed over up to one. -/
def UpTo (exchange : Exchange) (urls : List String) (url : String) : Prop :=
  ∃ before after, urls = before ++ url :: after ∧
    ∀ u ∈ before, Absent exchange u ∨ Failed exchange u

/-- The search comes to an address that cannot be asked for under the limit to the
time. -/
def LimitBreaks (exchange : Exchange) (urls : List String) : Prop :=
  ∃ url, UpTo exchange urls url ∧ Unkept exchange url

/-- The search fails, and the failure is of the kind. -/
def FailsAs (result : Except Stop Octets) (kind : FailureKind) : Prop :=
  ∃ failure, result = .error (.failure failure) ∧ failure.kind = .inl kind

/-- What a search comes to. -/
structure SearchEnds (exchange : Exchange) (urls : List String) (result : Except Stop Octets) :
    Prop where
  contents : ∀ body, result = .ok body ↔ ∃ url, UpTo exchange urls url ∧ Gives exchange url body
  notFound : FailsAs result .notFound ↔ ∀ url ∈ urls, Absent exchange url
  fetch : FailsAs result .fetch ↔
    (∀ url ∈ urls, Absent exchange url ∨ Failed exchange url) ∧ ∃ url ∈ urls, Failed exchange url
  malformed : FailsAs result .malformedInput ↔
    ∃ url, UpTo exchange urls url ∧ Unaskable exchange url
  fault : ∀ fault, result = .error (.fault fault) ↔
    fault = .limitTooLong ∧ LimitBreaks exchange urls

variable {what : String} {urls : List String}

/-- A search comes to one of five things. -/
theorem search_cases (exchange : Exchange) (urls : List String) :
    (∃ url body, UpTo exchange urls url ∧ Gives exchange url body) ∨
    (∃ url, UpTo exchange urls url ∧ Unaskable exchange url) ∨
    (∃ url, UpTo exchange urls url ∧ Unkept exchange url) ∨
    (∀ url ∈ urls, Absent exchange url) ∨
    (∀ url ∈ urls, Absent exchange url ∨ Failed exchange url) ∧
      ∃ url ∈ urls, Failed exchange url := by
  obtain ⟨before, url, after, rfl, passed, stays⟩ | passed :=
    Maven.exists_first_or_all (fetcherOf exchange) urls
  · have upTo : UpTo exchange (before ++ url :: after) url :=
      ⟨before, after, rfl, fun u mem => passedOver_iff.1 (passed u mem)⟩
    obtain unaskable | unkept | absent | failed | ⟨body, gives⟩ := request_cases exchange url
    · exact .inr (.inl ⟨url, upTo, unaskable⟩)
    · exact .inr (.inr (.inl ⟨url, upTo, unkept⟩))
    · exact absurd (passedOver_iff.2 (.inl absent)) stays
    · exact absurd (passedOver_iff.2 (.inr failed)) stays
    · exact .inl ⟨url, body, upTo, gives⟩
  · have missing : ∀ url ∈ urls, Absent exchange url ∨ Failed exchange url :=
      fun url mem => passedOver_iff.1 (passed url mem)
    by_cases failed : ∃ url ∈ urls, Failed exchange url
    · exact .inr (.inr (.inr (.inr ⟨missing, failed⟩)))
    · exact .inr (.inr (.inr (.inl fun url mem =>
        (missing url mem).resolve_right fun fail => failed ⟨url, mem, fail⟩)))

/-- A search ends at the first address that is not passed over. -/
theorem fetchFirst_of_upTo {url : String} (upTo : UpTo exchange urls url)
    (stays : ¬ PassedOver (fetcherOf exchange) url) :
    (fetchFirst (fetcherOf exchange) what [] urls).result = (fetcherOf exchange url).contents := by
  obtain ⟨before, after, rfl, missing⟩ := upTo
  rw [Maven.fetchFirst_of_first (fun u mem => passedOver_iff.2 (missing u mem)) stays]

theorem fetchFirst_of_gives {url : String} (upTo : UpTo exchange urls url)
    (gives : Gives exchange url body) :
    (fetchFirst (fetcherOf exchange) what [] urls).result = .ok body :=
  have served := contents_of_gives gives
  (fetchFirst_of_upTo upTo (Maven.not_passedOver_of_ok served)).trans served

theorem fetchFirst_of_unaskable (what : String) {url : String} (upTo : UpTo exchange urls url)
    (unaskable : Unaskable exchange url) :
    ∃ reason, (fetchFirst (fetcherOf exchange) what [] urls).result =
      .error (.failure (.invalidUrl url reason)) := by
  obtain ⟨reason, refused⟩ := contents_of_unaskable unaskable
  have stays := Maven.not_passedOver_of_final refused rfl
  exact ⟨reason, (fetchFirst_of_upTo upTo stays).trans refused⟩

theorem fetchFirst_of_unkept {url : String} (upTo : UpTo exchange urls url)
    (unkept : Unkept exchange url) :
    (fetchFirst (fetcherOf exchange) what [] urls).result = .error (.fault .limitTooLong) :=
  have endless := contents_of_unkept unkept
  (fetchFirst_of_upTo upTo (Maven.not_passedOver_of_final endless rfl)).trans endless

theorem fetchFirst_of_absent (absent : ∀ url ∈ urls, Absent exchange url) :
    (fetchFirst (fetcherOf exchange) what [] urls).result =
      .error (.failure (.inNoRepository what)) := by
  have quiet : urls.filter (fails (fetcherOf exchange)) = [] := List.filter_eq_nil_iff.2
    fun url mem noted => not_failed_of_absent (absent url mem) (fails_iff.1 noted)
  rw [Maven.fetchFirst_of_all fun url mem => passedOver_iff.2 (.inl (absent url mem)), quiet]
  rfl

theorem fetchFirst_of_failed (missing : ∀ url ∈ urls, Absent exchange url ∨ Failed exchange url)
    (failed : ∃ url ∈ urls, Failed exchange url) :
    (fetchFirst (fetcherOf exchange) what [] urls).result =
      .error (.failure (.notRetrieved what (urls.filter (fails (fetcherOf exchange))))) := by
  obtain ⟨url, mem, fail⟩ := failed
  have noted : url ∈ urls.filter (fails (fetcherOf exchange)) :=
    List.mem_filter.2 ⟨mem, fails_iff.2 fail⟩
  rw [Maven.fetchFirst_of_all fun url mem => passedOver_iff.2 (missing url mem), List.nil_append,
    Maven.nowhere, if_neg (by simpa using List.ne_nil_of_mem noted)]

theorem failsAs_iff {result : Except Stop Octets} {failure : Failure} {kind : FailureKind}
    (ended : result = .error (.failure failure)) :
    FailsAs result kind ↔ failure.kind = .inl kind := by
  constructor
  · rintro ⟨other, ended', same⟩
    cases ended.symm.trans ended'
    exact same
  · exact fun same => ⟨failure, ended, same⟩

/-- The kind of a failure tells what the search has come to. -/
theorem failsAs_cases {kind : FailureKind}
    (fails : FailsAs (fetchFirst (fetcherOf exchange) what [] urls).result kind) :
    (kind = .malformedInput ∧ ∃ url, UpTo exchange urls url ∧ Unaskable exchange url) ∨
    (kind = .notFound ∧ ∀ url ∈ urls, Absent exchange url) ∨
    (kind = .fetch ∧ (∀ url ∈ urls, Absent exchange url ∨ Failed exchange url) ∧
      ∃ url ∈ urls, Failed exchange url) := by
  obtain ⟨url, body, upTo, gives⟩ | ⟨url, upTo, unaskable⟩ | ⟨url, upTo, unkept⟩ | absent |
    ⟨missing, failed⟩ := search_cases exchange urls
  · obtain ⟨failure, ended, -⟩ := fails
    cases ended.symm.trans (fetchFirst_of_gives upTo gives)
  · obtain ⟨reason, refused⟩ := fetchFirst_of_unaskable what upTo unaskable
    have same := (failsAs_iff refused).1 fails
    exact .inl ⟨(Sum.inl.inj same).symm, url, upTo, unaskable⟩
  · obtain ⟨failure, ended, -⟩ := fails
    cases ended.symm.trans (fetchFirst_of_unkept upTo unkept)
  · have same := (failsAs_iff (fetchFirst_of_absent absent)).1 fails
    exact .inr (.inl ⟨(Sum.inl.inj same).symm, absent⟩)
  · have same := (failsAs_iff (fetchFirst_of_failed missing failed)).1 fails
    exact .inr (.inr ⟨(Sum.inl.inj same).symm, missing, failed⟩)

theorem fetchFirst_eq_ok_iff :
    (fetchFirst (fetcherOf exchange) what [] urls).result = .ok body ↔
      ∃ url, UpTo exchange urls url ∧ Gives exchange url body := by
  simp only [Maven.fetchFirst_eq_ok_iff, Maven.Serves, passedOver_iff, contents_eq_ok_iff, UpTo]
  constructor
  · rintro ⟨before, url, after, split, missing, gives⟩
    exact ⟨url, ⟨before, after, split, missing⟩, gives⟩
  · rintro ⟨url, ⟨before, after, split, missing⟩, gives⟩
    exact ⟨before, url, after, split, missing, gives⟩

/-- A search meets with no other fault than a limit that cannot be kept. -/
theorem searchFault_iff {fault : Fault} :
    Maven.SearchFault (fetcherOf exchange) urls fault ↔
      fault = .limitTooLong ∧ LimitBreaks exchange urls := by
  simp only [Maven.SearchFault, passedOver_iff, contents_eq_fault_iff, LimitBreaks, UpTo]
  constructor
  · rintro ⟨before, url, after, split, missing, rfl, unkept⟩
    exact ⟨rfl, url, ⟨before, after, split, missing⟩, unkept⟩
  · rintro ⟨rfl, url, ⟨before, after, split, missing⟩, unkept⟩
    exact ⟨before, url, after, split, missing, rfl, unkept⟩

theorem search_ends (exchange : Exchange) (what : String) (urls : List String) :
    SearchEnds exchange urls (fetchFirst (fetcherOf exchange) what [] urls).result where
  contents _ := fetchFirst_eq_ok_iff
  notFound := by
    constructor
    · intro fails
      obtain ⟨other, -⟩ | ⟨-, absent⟩ | ⟨other, -⟩ := failsAs_cases fails
      · cases other
      · exact absent
      · cases other
    · exact fun absent => (failsAs_iff (fetchFirst_of_absent absent)).2 rfl
  fetch := by
    constructor
    · intro fails
      obtain ⟨other, -⟩ | ⟨other, -⟩ | ⟨-, failed⟩ := failsAs_cases fails
      · cases other
      · cases other
      · exact failed
    · exact fun ⟨missing, failed⟩ => (failsAs_iff (fetchFirst_of_failed missing failed)).2 rfl
  malformed := by
    constructor
    · intro fails
      obtain ⟨-, unaskable⟩ | ⟨other, -⟩ | ⟨other, -⟩ := failsAs_cases fails
      · exact unaskable
      · cases other
      · cases other
    · rintro ⟨url, upTo, unaskable⟩
      obtain ⟨reason, refused⟩ := fetchFirst_of_unaskable what upTo unaskable
      exact (failsAs_iff refused).2 rfl
  fault _ := Maven.fetchFirst_eq_fault_iff.trans searchFault_iff

/-! Successes. -/

/-- The final answer is a success. -/
def Succeeds (exchange : Exchange) (text : String) : Prop :=
  ∃ response, ComesTo exchange text (.ok response) ∧ IsSuccess response.status

/-- Every address can be asked for under the limit, and every final answer is a
success or reports an error. -/
structure Regular (exchange : Exchange) (urls : List String) : Prop where
  askable : ∀ url ∈ urls, ¬ Unaskable exchange url
  kept : ∀ url ∈ urls, ¬ Unkept exchange url
  plain : ∀ url ∈ urls, ∀ response, ComesTo exchange url (.ok response) →
    IsSuccess response.status ∨ IsError response.status

/-- The first success is taken. Without one, the kind of the failure says whether
every final answer was that there is nothing. -/
structure TakesSuccess (exchange : Exchange) (urls : List String) (result : Except Stop Octets) :
    Prop where
  contents : ∀ body, result = .ok body ↔ ∃ before url after response,
    urls = before ++ url :: after ∧ (∀ u ∈ before, ¬ Succeeds exchange u) ∧
    ComesTo exchange url (.ok response) ∧ IsSuccess response.status ∧ response.body = body
  notFound : FailsAs result .notFound ↔ ∀ url ∈ urls, Absent exchange url
  fetch : FailsAs result .fetch ↔
    (∀ url ∈ urls, ¬ Succeeds exchange url) ∧ ¬ ∀ url ∈ urls, Absent exchange url

theorem isError_of_absent {status : Nat} (absent : status ∈ absentStatuses) : IsError status := by
  obtain rfl | rfl : status = 404 ∨ status = 410 := by simpa [absentStatuses] using absent
  · exact ⟨by decide, by decide⟩
  · exact ⟨by decide, by decide⟩

theorem not_isError_of_isSuccess {status : Nat} (success : IsSuccess status) : ¬ IsError status :=
  fun isError => absurd (Nat.lt_of_lt_of_le success.2 (by decide : 300 ≤ 400))
    (Nat.not_lt.2 isError.1)

theorem gives_of_success {response : Response} (comes : ComesTo exchange text (.ok response))
    (success : IsSuccess response.status) : Gives exchange text response.body :=
  have noError := not_isError_of_isSuccess success
  ⟨response, comes, rfl, fun absent => noError (isError_of_absent absent), noError⟩

theorem not_missing_of_gives (gives : Gives exchange text body) :
    ¬ (Absent exchange text ∨ Failed exchange text) := by
  intro missing
  exact Maven.not_passedOver_of_ok (contents_of_gives gives) (passedOver_iff.2 missing)

section Regular

variable {url : String}

theorem Regular.success_of_gives (regular : Regular exchange urls) (mem : url ∈ urls)
    (gives : Gives exchange url body) :
    ∃ response, ComesTo exchange url (.ok response) ∧ IsSuccess response.status ∧
      response.body = body := by
  obtain ⟨response, comes, same, -, noError⟩ := gives
  exact ⟨response, comes, (regular.plain url mem response comes).resolve_right noError, same⟩

theorem Regular.missing_iff (regular : Regular exchange urls) (mem : url ∈ urls) :
    Absent exchange url ∨ Failed exchange url ↔ ¬ Succeeds exchange url := by
  constructor
  · rintro missing ⟨response, comes, success⟩
    exact not_missing_of_gives (gives_of_success comes success) missing
  · intro without
    obtain unaskable | unkept | absent | failed | ⟨body, gives⟩ := request_cases exchange url
    · exact absurd unaskable (regular.askable url mem)
    · exact absurd unkept (regular.kept url mem)
    · exact .inl absent
    · exact .inr failed
    · obtain ⟨response, comes, success, -⟩ := regular.success_of_gives mem gives
      exact absurd ⟨response, comes, success⟩ without

end Regular

/-- Where answers are successes or report errors, successes are taken. -/
theorem SearchEnds.takesSuccess {result : Except Stop Octets}
    (ends : SearchEnds exchange urls result) (regular : Regular exchange urls) :
    TakesSuccess exchange urls result where
  contents body := by
    rw [ends.contents]
    constructor
    · rintro ⟨url, ⟨before, after, rfl, missing⟩, gives⟩
      obtain ⟨response, comes, success, same⟩ := regular.success_of_gives (by simp) gives
      exact ⟨before, url, after, response, rfl, fun u mem =>
        (regular.missing_iff (List.mem_append_left _ mem)).1 (missing u mem), comes, success, same⟩
    · rintro ⟨before, url, after, response, rfl, without, comes, success, rfl⟩
      exact ⟨url, ⟨before, after, rfl, fun u mem =>
        (regular.missing_iff (List.mem_append_left _ mem)).2 (without u mem)⟩,
        gives_of_success comes success⟩
  notFound := ends.notFound
  fetch := by
    rw [ends.fetch]
    constructor
    · rintro ⟨missing, url, mem, failed⟩
      exact ⟨fun url mem => (regular.missing_iff mem).1 (missing url mem),
        fun absent => not_failed_of_absent (absent url mem) failed⟩
    · rintro ⟨without, some⟩
      have missing : ∀ url ∈ urls, Absent exchange url ∨ Failed exchange url :=
        fun url mem => (regular.missing_iff mem).2 (without url mem)
      refine ⟨missing, ?_⟩
      by_contra none
      exact some fun url mem =>
        (missing url mem).resolve_right fun failed => none ⟨url, mem, failed⟩

/-- **What fetching a file comes to.** The repositories are asked in order, and
those are passed over that have nothing, fail or cannot be reached. Then a final
answer gives the contents, or an address cannot be asked for, or not under the
limit to the time. Without any of these, the failure says whether every answer was
that there is nothing. Answers that neither are successes nor report an error give
contents too; where there are none and all addresses can be asked for, only
successes do. -/
theorem fetch_ends (exchange : Exchange) (coordinate : Coordinate) :
    (SearchEnds exchange (pomUrls coordinate) (fetchPom (fetcherOf exchange) coordinate).result ∧
      (Regular exchange (pomUrls coordinate) →
        TakesSuccess exchange (pomUrls coordinate)
          (fetchPom (fetcherOf exchange) coordinate).result)) ∧
    SearchEnds exchange (jarUrls coordinate) (fetchJar (fetcherOf exchange) coordinate).result ∧
      (Regular exchange (jarUrls coordinate) →
        TakesSuccess exchange (jarUrls coordinate)
          (fetchJar (fetcherOf exchange) coordinate).result) :=
  have pom := search_ends exchange ("POM for " ++ coordinate.text) (pomUrls coordinate)
  have jar := search_ends exchange ("JAR for " ++ coordinate.text) (jarUrls coordinate)
  ⟨⟨pom, pom.takesSuccess⟩, jar, jar.takesSuccess⟩

/-! The same answer everywhere. -/

/-- An answer with the status at every address, without a body. -/
def answering (status : Nat) : Server := fun _ => .ok ⟨status, none, []⟩

/-- An artifact in one repository. -/
def shelved : Coordinate :=
  ⟨"org.shelf", "book", "2.1", ["https://r/"], by decide, by decide, by decide⟩

theorem status_of_answering {status : Nat} {response : Response}
    (comes : ComesTo (answering status).exchange text (.ok response)) :
    response.status = status := by
  obtain ⟨url, n, last, -, -, -, ended⟩ := comes
  cases ended with
  | final answered stays =>
    obtain rfl := Except.ok.inj (Option.some.inj answered)
    rfl

theorem fetch_ends_answering : Regular (answering 200).exchange (pomUrls shelved) ∧
    TakesSuccess (answering 200).exchange (pomUrls shelved)
      (fetchPom (fetcher (answering 200)) shelved).result := by
  have served : ∀ url ∈ pomUrls shelved, (fetcher (answering 200) url).contents.isOk = true := by
    decide +kernel
  have regular : Regular (answering 200).exchange (pomUrls shelved) := by
    refine ⟨fun url mem unaskable => ?_, fun url mem unkept => ?_,
      fun url mem response comes => .inl ?_⟩
    · obtain ⟨reason, refused⟩ := contents_of_unaskable unaskable
      have ok := served url mem
      rw [fetcher, refused] at ok
      cases ok
    · have ok := served url mem
      rw [fetcher, contents_of_unkept unkept] at ok
      cases ok
    · rw [status_of_answering comes]
      exact ⟨by decide, by decide⟩
  exact ⟨regular, (fetch_ends (answering 200).exchange shelved).1.2 regular⟩

/-- An answer that there is nothing new is taken for contents. -/
theorem fetchPom_unmodified :
    (fetchPom (fetcher (answering 304)) shelved).result.toOption = some [] ∧
    ¬ TakesSuccess (answering 304).exchange (pomUrls shelved)
      (fetchPom (fetcher (answering 304)) shelved).result := by
  have served : (fetchPom (fetcher (answering 304)) shelved).result.toOption = some [] := by
    decide +kernel
  refine ⟨served, fun takes => ?_⟩
  obtain ⟨_, _, _, response, -, -, comes, success, -⟩ :=
    (takes.contents []).1 (Listing.toOption_eq_some_iff.1 served)
  rw [status_of_answering comes] at success
  exact absurd success.2 (by decide)

end CallGraph.Http
