import CallGraph.Maven.Repository
import Mathlib.Data.List.Infix

/-! Searches. An address is passed over when there is nothing or when it fails. A
search asks for addresses up to the first one that is not passed over, and comes
to what that one comes to; without such an address, it comes to a failure that
names the addresses which failed. -/
namespace CallGraph.Maven

variable {fetcher : Fetcher} {what url : String} {failed urls : List String} {contents : Octets}

/-- A search goes on after the address. -/
def PassedOver (fetcher : Fetcher) (url : String) : Prop :=
  ∃ stop, (fetcher url).contents = .error stop ∧ verdict stop ≠ .final

/-- The address fails in a way that is remembered. -/
def fails (fetcher : Fetcher) (url : String) : Bool :=
  match (fetcher url).contents with
  | .ok _ => false
  | .error stop => verdict stop = .failed

/-- What others see when addresses are asked for one after the other. -/
def asked (fetcher : Fetcher) (urls : List String) : List Event :=
  urls.flatMap fun url => (fetch fetcher url).events

/-- What a search comes to when nothing serves, after some addresses failed. -/
def nowhere (what : String) (failed : List String) : Failure :=
  if failed.isEmpty then .inNoRepository what else .notRetrieved what failed

/-- The addresses of the coordinate's build file, in the order of the
repositories. -/
def pomUrls (coordinate : Coordinate) : List String := coordinate.repos.map coordinate.pomUrl

/-- The addresses of the coordinate's classes. -/
def jarUrls (coordinate : Coordinate) : List String := coordinate.repos.map coordinate.jarUrl

/-- The first address that is not passed over serves the contents. -/
def Serves (fetcher : Fetcher) (urls : List String) (contents : Octets) : Prop :=
  ∃ before url after, urls = before ++ url :: after ∧ (∀ u ∈ before, PassedOver fetcher u) ∧
    (fetcher url).contents = .ok contents

/-- The first address that is not passed over brings the fault about. -/
def SearchFault (fetcher : Fetcher) (urls : List String) (fault : Fault) : Prop :=
  ∃ before url after, urls = before ++ url :: after ∧ (∀ u ∈ before, PassedOver fetcher u) ∧
    (fetcher url).contents = .error (.fault fault)

theorem not_passedOver_of_ok (served : (fetcher url).contents = .ok contents) :
    ¬ PassedOver fetcher url := by
  rintro ⟨stop, refused, -⟩
  cases served.symm.trans refused

theorem not_passedOver_of_final {stop : Stop} (refused : (fetcher url).contents = .error stop)
    (final : verdict stop = .final) : ¬ PassedOver fetcher url := by
  rintro ⟨other, refused', goesOn⟩
  obtain rfl := Except.error.inj (refused.symm.trans refused')
  exact goesOn final

theorem asked_cons (url : String) (urls : List String) :
    asked fetcher (url :: urls) = (fetch fetcher url).events ++ asked fetcher urls :=
  List.flatMap_cons

theorem asked_append (urls urls' : List String) :
    asked fetcher (urls ++ urls') = asked fetcher urls ++ asked fetcher urls' :=
  List.flatMap_append

/-! One address. -/

theorem fetchFirst_cons_of_passedOver (passed : PassedOver fetcher url) :
    fetchFirst fetcher what failed (url :: urls) =
      ⟨(fetch fetcher url).events ++
          (fetchFirst fetcher what (failed ++ [url].filter (fails fetcher)) urls).events,
        (fetchFirst fetcher what (failed ++ [url].filter (fails fetcher)) urls).result⟩ := by
  obtain ⟨stop, refused, goesOn⟩ := passed
  have attempt : (fetch fetcher url).result = .error stop := refused
  cases decided : verdict stop with
  | final => exact absurd decided goesOn
  | absent =>
    have quiet : [url].filter (fails fetcher) = [] := by simp [fails, refused, decided]
    rw [quiet, List.append_nil]
    simp only [fetchFirst, attempt, decided]
  | failed =>
    have noted : [url].filter (fails fetcher) = [url] := by simp [fails, refused, decided]
    rw [noted]
    simp only [fetchFirst, attempt, decided]

/-- A search ends at an address that is not passed over. -/
theorem fetchFirst_cons_of_not_passedOver (stays : ¬ PassedOver fetcher url) :
    fetchFirst fetcher what failed (url :: urls) =
      ⟨(fetch fetcher url).events, (fetcher url).contents⟩ := by
  cases served : (fetcher url).contents with
  | ok contents =>
    have attempt : (fetch fetcher url).result = .ok contents := served
    simp only [fetchFirst, attempt]
  | error stop =>
    have attempt : (fetch fetcher url).result = .error stop := served
    have final : verdict stop = .final := by
      by_contra goesOn
      exact stays ⟨stop, served, goesOn⟩
    simp only [fetchFirst, attempt, final]

/-! All addresses. -/

/-- A search goes through addresses that are passed over and remembers those that
failed. -/
theorem fetchFirst_append {before : List String} (passed : ∀ u ∈ before, PassedOver fetcher u) :
    fetchFirst fetcher what failed (before ++ urls) =
      ⟨asked fetcher before ++
          (fetchFirst fetcher what (failed ++ before.filter (fails fetcher)) urls).events,
        (fetchFirst fetcher what (failed ++ before.filter (fails fetcher)) urls).result⟩ := by
  -- The addresses to remember grow on the way.
  induction before generalizing failed with
  | nil => simp [asked]
  | cons url before ih =>
    obtain ⟨here, later⟩ := List.forall_mem_cons.1 passed
    have rest := @ih (failed ++ [url].filter (fails fetcher)) later
    have filtered : (failed ++ [url].filter (fails fetcher)) ++ before.filter (fails fetcher) =
        failed ++ (url :: before).filter (fails fetcher) := by
      rw [List.append_assoc, ← List.filter_append, List.singleton_append]
    rw [List.cons_append, fetchFirst_cons_of_passedOver here, rest, filtered, asked_cons,
      List.append_assoc]

/-- Addresses have a first one that is not passed over, or all are passed over. -/
theorem exists_first_or_all (fetcher : Fetcher) (urls : List String) :
    (∃ before url after, urls = before ++ url :: after ∧ (∀ u ∈ before, PassedOver fetcher u) ∧
      ¬ PassedOver fetcher url) ∨ ∀ u ∈ urls, PassedOver fetcher u := by
  classical
  cases found : urls.find? fun url => ¬ PassedOver fetcher url with
  | none => exact .inr (by simpa using found)
  | some url =>
    obtain ⟨stays, before, after, split, passed⟩ := List.find?_eq_some_iff_append.1 found
    exact .inl ⟨before, url, after, split, by simpa using passed, by simpa using stays⟩

theorem fetchFirst_of_first {before after : List String}
    (passed : ∀ u ∈ before, PassedOver fetcher u) (stays : ¬ PassedOver fetcher url) :
    fetchFirst fetcher what failed (before ++ url :: after) =
      ⟨asked fetcher (before ++ [url]), (fetcher url).contents⟩ := by
  rw [fetchFirst_append passed, fetchFirst_cons_of_not_passedOver stays, asked_append]
  simp [asked]

theorem fetchFirst_of_all (passed : ∀ u ∈ urls, PassedOver fetcher u) :
    fetchFirst fetcher what failed urls =
      ⟨asked fetcher urls,
        .error (.failure (nowhere what (failed ++ urls.filter (fails fetcher))))⟩ := by
  have through : fetchFirst fetcher what failed (urls ++ []) = _ := fetchFirst_append passed
  rw [List.append_nil] at through
  rw [through]
  simp [fetchFirst, Trace.ofExcept, nowhere]

theorem fetchFirst_eq_ok_iff :
    (fetchFirst fetcher what failed urls).result = .ok contents ↔ Serves fetcher urls contents := by
  constructor
  · intro served
    obtain ⟨before, url, after, rfl, passed, stays⟩ | passed := exists_first_or_all fetcher urls
    · rw [fetchFirst_of_first passed stays] at served
      exact ⟨before, url, after, rfl, passed, served⟩
    · rw [fetchFirst_of_all passed] at served
      cases served
  · rintro ⟨before, url, after, rfl, passed, served⟩
    rw [fetchFirst_of_first passed (not_passedOver_of_ok served), served]

theorem fetchFirst_eq_fault_iff {fault : Fault} :
    (fetchFirst fetcher what failed urls).result = .error (.fault fault) ↔
      SearchFault fetcher urls fault := by
  constructor
  · intro ended
    obtain ⟨before, url, after, rfl, passed, stays⟩ | passed := exists_first_or_all fetcher urls
    · rw [fetchFirst_of_first passed stays] at ended
      exact ⟨before, url, after, rfl, passed, ended⟩
    · rw [fetchFirst_of_all passed] at ended
      cases ended
  · rintro ⟨before, url, after, rfl, passed, broken⟩
    rw [fetchFirst_of_first passed (not_passedOver_of_final broken rfl), broken]

/-- A search asks for addresses in order, and for no other. -/
theorem exists_asked (fetcher : Fetcher) (what : String) (failed urls : List String) :
    ∃ initial, initial <+: urls ∧
      (fetchFirst fetcher what failed urls).events = asked fetcher initial := by
  obtain ⟨before, url, after, rfl, passed, stays⟩ | passed := exists_first_or_all fetcher urls
  · refine ⟨before ++ [url], ⟨after, by simp⟩, ?_⟩
    rw [fetchFirst_of_first passed stays]
  · exact ⟨urls, List.prefix_rfl, by rw [fetchFirst_of_all passed]⟩

/-! What a search does, told by the answers alone. -/

/-- Asking for the address comes to a failure of the kind. -/
def Refuses (fetcher : Fetcher) (kind : FailureKind) (url : String) : Prop :=
  ∃ failure, (fetcher url).contents = .error (.failure failure) ∧ failure.kind = .inl kind

instance (fetcher : Fetcher) (kind : FailureKind) (url : String) :
    Decidable (Refuses fetcher kind url) :=
  match answer : (fetcher url).contents with
  | .error (.failure failure) =>
    decidable_of_iff (failure.kind = .inl kind) (by simp [Refuses, answer])
  | .ok _ => isFalse (by simp [Refuses, answer])
  | .error (.fault _) => isFalse (by simp [Refuses, answer])

theorem verdict_eq_absent_iff {stop : Stop} : verdict stop = .absent ↔
    ∃ failure, stop = .failure failure ∧ failure.kind = .inl .notFound := by
  cases stop with
  | fault fault => simp [verdict]
  | failure failure =>
    simp only [verdict]
    split <;> simp_all

theorem verdict_eq_failed_iff {stop : Stop} : verdict stop = .failed ↔
    ∃ failure, stop = .failure failure ∧ failure.kind = .inl .fetch := by
  cases stop with
  | fault fault => simp [verdict]
  | failure failure =>
    simp only [verdict]
    split <;> simp_all

theorem passedOver_iff :
    PassedOver fetcher url ↔ Refuses fetcher .notFound url ∨ Refuses fetcher .fetch url := by
  constructor
  · rintro ⟨stop, refused, goesOn⟩
    cases decided : verdict stop with
    | final => exact absurd decided goesOn
    | absent =>
      obtain ⟨failure, rfl, kind⟩ := verdict_eq_absent_iff.1 decided
      exact .inl ⟨failure, refused, kind⟩
    | failed =>
      obtain ⟨failure, rfl, kind⟩ := verdict_eq_failed_iff.1 decided
      exact .inr ⟨failure, refused, kind⟩
  · rintro (⟨failure, refused, kind⟩ | ⟨failure, refused, kind⟩)
    · exact ⟨_, refused, by rw [verdict_eq_absent_iff.2 ⟨failure, rfl, kind⟩]; decide⟩
    · exact ⟨_, refused, by rw [verdict_eq_failed_iff.2 ⟨failure, rfl, kind⟩]; decide⟩

theorem fails_iff : fails fetcher url = true ↔ Refuses fetcher .fetch url := by
  rw [fails, Refuses]
  cases (fetcher url).contents with
  | ok contents => simp
  | error stop => simp [verdict_eq_failed_iff]

/-- The addresses that work calls the fetcher with, in order: what is seen of the
work when a call shows its address and nothing else. -/
def calls {α : Type} (work : Fetcher → Trace α) (fetcher : Fetcher) : List String :=
  (work fun url => ⟨[url], (fetcher url).contents⟩).requested

/-- What a search among addresses comes to, with the calls that it makes. -/
inductive Fallback (fetcher : Fetcher) (what : String) (urls : List String) :
    List String → Except Stop Octets → Prop
  /-- The first address that is neither absent nor failing ends the search, with the
  contents or with whatever else comes of it. -/
  | ended {before after : List String} {url : String} (split : urls = before ++ url :: after)
      (passed : ∀ u ∈ before, Refuses fetcher .notFound u ∨ Refuses fetcher .fetch u)
      (stays : ¬ (Refuses fetcher .notFound url ∨ Refuses fetcher .fetch url)) :
      Fallback fetcher what urls (before ++ [url]) (fetcher url).contents
  /-- There is no such address, and some address failed. -/
  | failed {failure : Failure}
      (passed : ∀ u ∈ urls, Refuses fetcher .notFound u ∨ Refuses fetcher .fetch u)
      (some : ∃ u ∈ urls, Refuses fetcher .fetch u) (kind : failure.kind = .inl .fetch)
      (message : failure.message = "Could not retrieve " ++ what ++ ": " ++
        String.intercalate ", " (urls.filter fun u => Refuses fetcher .fetch u)) :
      Fallback fetcher what urls urls (.error (.failure failure))
  /-- All addresses are absent, or there are no addresses. -/
  | absent {failure : Failure} (all : ∀ u ∈ urls, Refuses fetcher .notFound u)
      (kind : failure.kind = .inl .notFound)
      (message : failure.message = what ++ " not found in any repository") :
      Fallback fetcher what urls urls (.error (.failure failure))

theorem requested_asked (answers : String → Except Stop Octets) (urls : List String)
    (result : Except Stop Octets) :
    Trace.requested ⟨asked (fun url => ⟨[url], answers url⟩) urls, result⟩ = urls := by
  induction urls with
  | nil => rfl
  | cons url urls ih => exact congrArg (url :: ·) ih

/-- A search goes by the answers that its calls get, and what others see of it is
what these calls show. -/
structure FallsBack (search : Fetcher → Trace Octets) (fetcher : Fetcher) (what : String)
    (urls : List String) : Prop where
  course : Fallback fetcher what urls (calls search fetcher) (search fetcher).result
  seen : (search fetcher).events = asked fetcher (calls search fetcher)

theorem fallsBack_fetchFirst (fetcher : Fetcher) (what : String) (urls : List String) :
    FallsBack (fetchFirst · what [] urls) fetcher what urls := by
  obtain ⟨before, url, after, rfl, passed, stays⟩ | passed := exists_first_or_all fetcher urls
  · -- Whether an address is passed over does not depend on what else a call shows.
    have passed' : ∀ u ∈ before, PassedOver (fun url => ⟨[url], (fetcher url).contents⟩) u := passed
    have called : calls (fetchFirst · what [] (before ++ url :: after)) fetcher = before ++ [url] := by
      rw [calls, fetchFirst_of_first passed' stays]
      exact requested_asked ..
    constructor
    · rw [called, fetchFirst_of_first passed stays]
      exact .ended rfl (fun u mem => passedOver_iff.1 (passed u mem)) (mt passedOver_iff.2 stays)
    · rw [called, fetchFirst_of_first passed stays]
  · have passed' : ∀ u ∈ urls, PassedOver (fun url => ⟨[url], (fetcher url).contents⟩) u := passed
    have called : calls (fetchFirst · what [] urls) fetcher = urls := by
      rw [calls, fetchFirst_of_all passed']
      exact requested_asked ..
    have remembered : urls.filter (fails fetcher) =
        urls.filter fun u => Refuses fetcher .fetch u := by
      refine List.filter_congr fun u _ => ?_
      rw [Bool.eq_iff_iff, fails_iff, decide_eq_true_eq]
    have refused := fun u mem => passedOver_iff.1 (passed u mem)
    constructor
    · rw [called, fetchFirst_of_all passed, List.nil_append, remembered]
      by_cases some : ∃ u ∈ urls, Refuses fetcher .fetch u
      · have listed : (urls.filter fun u => Refuses fetcher .fetch u).isEmpty = false := by
          simpa using some
        rw [nowhere, listed]
        exact .failed refused some rfl rfl
      · have listed : (urls.filter fun u => Refuses fetcher .fetch u).isEmpty = true := by
          simpa using some
        have absent : ∀ u ∈ urls, Refuses fetcher .notFound u := fun u mem =>
          (refused u mem).resolve_right fun failed => some ⟨u, mem, failed⟩
        rw [nowhere, listed]
        exact .absent absent rfl rfl
    · rw [called, fetchFirst_of_all passed]

/-- **Repositories are tried in order.** For the build file and for the classes of
every coordinate, the addresses in its repositories are asked for one after the
other, up to the first one that is neither absent nor failing; nothing is asked for
after it, and its contents or its failure are the result as they are. Where there is
none, each address is asked for once, and the failure that results lists the
addresses that failed, or says that there is nothing if none did. -/
theorem fetch_fallsBack (fetcher : Fetcher) (coordinate : Coordinate) :
    FallsBack (fetchPom · coordinate) fetcher ("POM for " ++ coordinate.text)
      (pomUrls coordinate) ∧
    FallsBack (fetchJar · coordinate) fetcher ("JAR for " ++ coordinate.text)
      (jarUrls coordinate) :=
  ⟨fallsBack_fetchFirst fetcher _ _, fallsBack_fetchFirst fetcher _ _⟩

end CallGraph.Maven
