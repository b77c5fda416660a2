import CallGraph.Proofs.Revision.Judgement

/-! What validation reports, and when it reports. Every error is a defect of the
file, and every defect is an error. The methods of a type that cannot be read are
passed over, and so is the URI of a method without a number; of the others, each
is judged by what stands before it. Validation has nothing to say only of a
document in which digits that form no number stand where it looks for one. -/
namespace CallGraph.Revision
open Listing

/-! Items and what stands before them. -/

section Somewhere

variable {α β : Type} {p : List α → α → Prop} {xs ys : List α}

/-- Some item of the list has a property that speaks of the items before it. -/
def Somewhere (p : List α → α → Prop) (xs : List α) : Prop :=
  ∃ before x after, xs = before ++ x :: after ∧ p before x

theorem not_somewhere_nil : ¬ Somewhere p [] := by
  rintro ⟨before, x, after, split, -⟩
  cases before <;> cases split

theorem somewhere_cons {x : α} :
    Somewhere p (x :: xs) ↔ p [] x ∨ Somewhere (fun before => p (x :: before)) xs := by
  constructor
  · rintro ⟨before, y, after, split, holds⟩
    cases before with
    | nil =>
      obtain ⟨rfl, rfl⟩ := List.cons.inj split
      exact .inl holds
    | cons z before =>
      obtain ⟨rfl, rfl⟩ := List.cons.inj split
      exact .inr ⟨before, y, after, rfl, holds⟩
  · rintro (holds | ⟨before, y, after, rfl, holds⟩)
    · exact ⟨[], x, xs, rfl, holds⟩
    · exact ⟨x :: before, y, after, rfl, holds⟩

theorem somewhere_append :
    Somewhere p (xs ++ ys) ↔ Somewhere p xs ∨ Somewhere (fun before => p (xs ++ before)) ys := by
  induction xs generalizing p with
  | nil => simp only [List.nil_append, not_somewhere_nil, false_or]
  | cons x xs ih => simp only [List.cons_append, somewhere_cons, ih, or_assoc]

theorem somewhere_map {f : β → α} {zs : List β} :
    Somewhere p (zs.map f) ↔ Somewhere (fun before z => p (before.map f) (f z)) zs := by
  induction zs generalizing p with
  | nil => simp only [List.map_nil, not_somewhere_nil]
  | cons z zs ih => simp only [List.map_cons, somewhere_cons, ih, List.map_nil]

theorem somewhere_exists {γ : Type} {q : γ → List α → α → Prop} :
    Somewhere (fun before x => ∃ c, q c before x) xs ↔ ∃ c, Somewhere (q c) xs := by
  constructor
  · rintro ⟨before, x, after, split, c, holds⟩
    exact ⟨c, before, x, after, split, holds⟩
  · rintro ⟨c, before, x, after, split, holds⟩
    exact ⟨before, x, after, split, c, holds⟩

theorem somewhere_and {q : Prop} :
    Somewhere (fun before x => p before x ∧ q) xs ↔ Somewhere p xs ∧ q := by
  constructor
  · rintro ⟨before, x, after, split, holds, also⟩
    exact ⟨⟨before, x, after, split, holds⟩, also⟩
  · rintro ⟨⟨before, x, after, split, holds⟩, also⟩
    exact ⟨before, x, after, split, holds, also⟩

end Somewhere

/-! Defects. -/

/-- A method of a document: the key and the type that it stands under, what
stands for its number, and its URI. -/
structure Listed where
  key : String
  type : TypeUri
  id : String
  uri : String

/-- The methods under a key, if that is a type. -/
def listedUnder (key : String) (entry : TypeEntry) : List Listed :=
  match TypeUri.parse key none with
  | .ok type => entry.methods.entries.map fun method => ⟨key, type, method.1, method.2⟩
  | .error _ => []

/-- The methods of the types that can be read, in their order. -/
def listed (entries : List (String × TypeEntry)) : List Listed :=
  entries.flatMap fun entry => listedUnder entry.1 entry.2

theorem listed_cons (key : String) (entry : TypeEntry) (rest : List (String × TypeEntry)) :
    listed ((key, entry) :: rest) = listedUnder key entry ++ listed rest :=
  List.flatMap_cons

theorem listedUnder_unread {key : String} {defect : Uri.Defect} (entry : TypeEntry)
    (refused : TypeUri.parse key none = .error defect) : listedUnder key entry = [] := by
  rw [listedUnder, refused]

theorem listedUnder_read {key : String} {type : TypeUri} (entry : TypeEntry)
    (read : TypeUri.parse key none = .ok type) : listedUnder key entry =
      entry.methods.entries.map fun method => ⟨key, type, method.1, method.2⟩ := by
  rw [listedUnder, read]

theorem map_id_listed (key : String) (type : TypeUri) (methods : List (String × String)) :
    (methods.map fun method => (⟨key, type, method.1, method.2⟩ : Listed)).map Listed.id =
      methods.map Prod.fst :=
  List.map_map

/-- What is wrong with a method, where some numbers are taken. -/
inductive MethodDefect (taken : Nat → Prop) (type : TypeUri) (id uri : String) : Problem → Prop
  | noNumber (other : ¬ Text.allDigits id = true) : MethodDefect taken type id uri (.notANumber id)
  | repeated {n : Nat} (stands : StandsFor id n) (before : taken n) :
      MethodDefect taken type id uri (.duplicateNumber n)
  | unread {defect : Uri.Defect} (digits : Text.allDigits id = true)
      (refused : MethodUri.parse uri = .error defect) : MethodDefect taken type id uri (.uri defect)
  | foreign {method : MethodUri} (digits : Text.allDigits id = true)
      (read : MethodUri.parse uri = .ok method) (other : method.typeUri ≠ type) :
      MethodDefect taken type id uri (.foreignMethod uri)

/-- One of the methods has the number. -/
def Numbered (methods : List Listed) (n : Nat) : Prop :=
  ∃ method ∈ methods, StandsFor method.id n

/-- What is wrong in a document. -/
inductive Defect (doc : Revision) : Finding → Prop
  | type {key : String} {entry : TypeEntry} {defect : Uri.Defect}
      (mem : (key, entry) ∈ doc.cha.entries) (refused : TypeUri.parse key none = .error defect) :
      Defect doc ⟨.cha, some key, .uri defect⟩
  | method {before after : List Listed} {method : Listed} {problem : Problem}
      (place : listed doc.cha.entries = before ++ method :: after)
      (wrong : MethodDefect (Numbered before) method.type method.id method.uri problem) :
      Defect doc ⟨.cha, some method.key, problem⟩
  | internal {call : Int × Int} {i : Int} (mem : call ∈ doc.internalCalls)
      (here : i ∈ [call.1, call.2]) (unknown : ∀ n, Numbered (listed doc.cha.entries) n → i ≠ n) :
      Defect doc ⟨.internalCalls, some (call.1.repr ++ "," ++ call.2.repr), .unknownNumber i⟩
  | caller {key : String} {counts : Table String String}
      (mem : (key, counts) ∈ doc.externalCalls.entries)
      (unknown : ∀ n, Numbered (listed doc.cha.entries) n → ¬ StandsFor (splitKey key).1 n) :
      Defect doc ⟨.externalCalls, some key, .unknownCaller (splitKey key).1⟩
  | callee {key : String} {counts : Table String String} {defect : Uri.Defect}
      (mem : (key, counts) ∈ doc.externalCalls.entries)
      (refused : MethodUri.parse (splitKey key).2 = .error defect) :
      Defect doc ⟨.externalCalls, some key, .uri defect⟩
  | count {key kind count : String} {counts : Table String String}
      (mem : (key, counts) ∈ doc.externalCalls.entries) (here : (kind, count) ∈ counts.entries)
      (invalid : ∀ n, StandsFor count n → n = 0) :
      Defect doc ⟨.externalCalls, some key, .invalidCount count kind⟩

/-- The file is there and holds the document. -/
def Holds (contents : Except SystemError Octets) (doc : Revision) : Prop :=
  ∃ octets value, contents = .ok octets ∧ Json.ofOctets? .strict octets = some value ∧
    ofJson value = .ok doc

/-- What is wrong with a file. -/
inductive FileDefect [Platform] (contents : Except SystemError Octets) : Finding → Prop
  | unread {e : SystemError} (refused : contents = .error e) :
      FileDefect contents ⟨.document, none, .unreadable e.message⟩
  | noJson {octets : Octets} (there : contents = .ok octets)
      (none : Json.ofOctets? .strict octets = none) :
      FileDefect contents ⟨.document, .none, .unreadable (Platform.complaint .json octets)⟩
  | schema {octets : Octets} {value : Json} {defects : List Schema.Defect}
      (there : contents = .ok octets) (content : Json.ofOctets? .strict octets = some value)
      (refused : ofJson value = .error defects) :
      FileDefect contents ⟨.document, none, .schema defects (Platform.complaint .revision octets)⟩
  | document {doc : Revision} {finding : Finding} (holds : Holds contents doc)
      (wrong : Defect doc finding) : FileDefect contents finding

/-! Every error is a defect, and every defect an error. -/

theorem numberOf?_eq_none_iff {text : String} :
    numberOf? text = .ok none ↔ ¬ Text.allDigits text = true := by
  rw [numberOf?]
  split
  · next digits => cases Text.numeral text.toList <;> simp [Except.map, digits]
  · next other => simp [other]

theorem StandsFor.unique {text : String} {n m : Nat} (stands : StandsFor text n)
    (stands' : StandsFor text m) : n = m :=
  Except.ok.inj (stands.2.symm.trans stands'.2)

section Methods

variable {taken : Nat → Prop} {type : TypeUri} {id uri : String} {problem : Problem}

/-- Of a method without a number nothing else is said. -/
theorem methodDefect_of_notDigits (other : ¬ Text.allDigits id = true) :
    MethodDefect taken type id uri problem ↔ problem = .notANumber id := by
  constructor
  · rintro (_ | ⟨stands, -⟩ | ⟨digits, -⟩ | ⟨digits, -, -⟩)
    · rfl
    · exact absurd stands.1 other
    · exact absurd digits other
    · exact absurd digits other
  · rintro rfl
    exact .noNumber other

/-- A method with a number repeats it, or is at fault by its URI. -/
theorem methodDefect_of_standsFor {n : Nat} (stands : StandsFor id n) :
    MethodDefect taken type id uri problem ↔
      (taken n ∧ problem = .duplicateNumber n) ∨ checkMethod type uri = some problem := by
  constructor
  · rintro (other | ⟨stands', before⟩ | ⟨-, refused⟩ | ⟨-, read, other⟩)
    · exact absurd stands.1 other
    · obtain rfl := stands.unique stands'
      exact .inl ⟨before, rfl⟩
    · exact .inr (by rw [checkMethod, refused])
    · exact .inr (by simp only [checkMethod, read, if_neg other])
  · rintro (⟨before, rfl⟩ | found)
    · exact .repeated stands before
    · unfold checkMethod at found
      split at found
      · next refused =>
        obtain rfl := Option.some.inj found
        exact .unread stands.1 refused
      · next read =>
        split at found
        · cases found
        · next other =>
          obtain rfl := Option.some.inj found
          exact .foreign stands.1 read other

end Methods

/-- The number has been seen, or one of the texts stands for it. -/
def Taken (seen : List Nat) (ids : List String) (n : Nat) : Prop :=
  n ∈ seen ∨ ∃ id ∈ ids, StandsFor id n

section Taken

variable {seen : List Nat} {id : String} {ids : List String}

theorem taken_notDigits (other : ¬ Text.allDigits id = true) :
    Taken seen (id :: ids) = Taken seen ids := by
  funext n
  have silent : ¬ StandsFor id n := fun stands => other stands.1
  simp only [Taken, List.exists_mem_cons_iff, silent, false_or]

theorem taken_standsFor {number : Nat} (stands : StandsFor id number) :
    Taken seen (id :: ids) = Taken (number :: seen) ids := by
  refine funext fun n => propext ?_
  have only : StandsFor id n ↔ n = number :=
    ⟨fun stands' => stands'.unique stands, fun same => same ▸ stands⟩
  rw [Taken, Taken, List.exists_mem_cons_iff, only, or_left_comm, List.mem_cons, or_assoc]

theorem taken_append (found : List Nat) (first second : List String)
    (all : ∀ n, n ∈ found ↔ Taken seen first n) :
    Taken seen (first ++ second) = Taken found second := by
  funext n
  rw [Taken, Taken, all]
  simp only [Taken, List.mem_append, or_and_right, exists_or, or_assoc]

end Taken

/-- Of the methods of a type, the numbers are found, and each method is judged by
the numbers before it. -/
theorem mem_checkMethods {type : TypeUri} {seen found : List Nat}
    {entries : List (String × String)} {problems : List Problem}
    (judged : checkMethods type seen entries = .ok (found, problems)) :
    (∀ n, n ∈ found ↔ Taken seen (entries.map Prod.fst) n) ∧
    ∀ problem, problem ∈ problems ↔ Somewhere (fun before entry =>
      MethodDefect (Taken seen (before.map Prod.fst)) type entry.1 entry.2 problem) entries := by
  -- The numbers seen so far and those of the methods before are one thing to a
  -- method, so a number can be moved from these to those.
  induction entries generalizing seen problems with
  | nil =>
    obtain ⟨rfl, rfl⟩ := Prod.mk.inj (Except.ok.inj judged)
    simp [not_somewhere_nil, Taken]
  | cons entry rest ih =>
    obtain ⟨id, uri⟩ := entry
    rw [checkMethods, bind_eq_ok] at judged
    obtain ⟨number?, named, judged⟩ := judged
    cases number? with
    | none =>
      obtain ⟨⟨found', problems'⟩, later, done⟩ := bind_eq_ok.1 judged
      obtain ⟨rfl, rfl⟩ := Prod.mk.inj (Except.ok.inj done)
      have other := numberOf?_eq_none_iff.1 named
      obtain ⟨numbers, reported⟩ := ih later
      simp only [List.map_cons, somewhere_cons, taken_notDigits other, List.map_nil,
        methodDefect_of_notDigits other, List.mem_cons, numbers, reported, implies_true, and_self]
    | some number =>
      obtain ⟨⟨found', problems'⟩, later, done⟩ := bind_eq_ok.1 judged
      obtain ⟨rfl, rfl⟩ := Prod.mk.inj (Except.ok.inj done)
      have stands := numberOf?_eq_some_iff.1 named
      obtain ⟨numbers, reported⟩ := ih later
      simp only [List.map_cons, somewhere_cons, taken_standsFor stands, List.map_nil,
        methodDefect_of_standsFor stands, List.mem_append, numbers, reported, implies_true,
        true_and]
      intro problem
      refine or_congr_left (or_congr ?_ ?_)
      · by_cases repeated : number ∈ seen <;> simp [Taken, repeated]
      · simp [Option.mem_toList, eq_comm]

section Types

variable {seen found : List Nat} {key : String} {entry : TypeEntry}
  {rest entries : List (String × TypeEntry)} {findings : List Finding}

theorem checkTypes_unread {defect : Uri.Defect} (refused : TypeUri.parse key none = .error defect) :
    checkTypes seen ((key, entry) :: rest) = .ok (found, findings) ↔
      ∃ later, checkTypes seen rest = .ok (found, later) ∧
        findings = ⟨.cha, some key, .uri defect⟩ :: later := by
  rw [checkTypes, refused]
  constructor
  · intro judged
    obtain ⟨_, first, judged⟩ := bind_eq_ok.1 judged
    obtain rfl := Except.ok.inj first
    obtain ⟨⟨found', later⟩, others, done⟩ := bind_eq_ok.1 judged
    obtain ⟨rfl, rfl⟩ := Prod.mk.inj (Except.ok.inj done)
    exact ⟨later, others, rfl⟩
  · rintro ⟨later, others, rfl⟩
    exact bind_eq_ok.2 ⟨_, rfl, bind_eq_ok.2 ⟨_, others, rfl⟩⟩

theorem checkTypes_read {type : TypeUri} (read : TypeUri.parse key none = .ok type) :
    checkTypes seen ((key, entry) :: rest) = .ok (found, findings) ↔
      ∃ middle problems later,
        checkMethods type seen entry.methods.entries = .ok (middle, problems) ∧
        checkTypes middle rest = .ok (found, later) ∧
        findings = problems.map (fun problem => ⟨.cha, some key, problem⟩) ++ later := by
  rw [checkTypes, read]
  constructor
  · intro judged
    obtain ⟨⟨middle, problems⟩, own, judged⟩ := bind_eq_ok.1 judged
    obtain ⟨⟨found', later⟩, others, done⟩ := bind_eq_ok.1 judged
    obtain ⟨rfl, rfl⟩ := Prod.mk.inj (Except.ok.inj done)
    exact ⟨middle, problems, later, own, others, rfl⟩
  · rintro ⟨middle, problems, later, own, others, rfl⟩
    exact bind_eq_ok.2 ⟨_, own, bind_eq_ok.2 ⟨_, others, rfl⟩⟩

/-- A type that cannot be read is a defect, and its methods are passed over; any
other type adds its methods to those before. -/
theorem mem_checkTypes (judged : checkTypes seen entries = .ok (found, findings)) :
    (∀ n, n ∈ found ↔ Taken seen ((listed entries).map Listed.id) n) ∧
    ∀ finding, finding ∈ findings ↔
      (∃ entry ∈ entries, ∃ defect, TypeUri.parse entry.1 none = .error defect ∧
        finding = ⟨.cha, some entry.1, .uri defect⟩) ∨
      Somewhere (fun before method => ∃ problem, MethodDefect (Taken seen (before.map Listed.id))
          method.type method.id method.uri problem ∧ finding = ⟨.cha, some method.key, problem⟩)
        (listed entries) := by
  induction entries generalizing seen findings with
  | nil =>
    obtain ⟨rfl, rfl⟩ := Prod.mk.inj (Except.ok.inj judged)
    simp [listed, not_somewhere_nil, Taken]
  | cons entry rest ih =>
    obtain ⟨key, entry⟩ := entry
    rw [listed_cons]
    cases parsed : TypeUri.parse key none with
    | error defect =>
      obtain ⟨later, others, rfl⟩ := (checkTypes_unread parsed).1 judged
      obtain ⟨numbers, reported⟩ := ih others
      rw [listedUnder_unread entry parsed, List.nil_append]
      refine ⟨numbers, fun finding => ?_⟩
      simp [parsed, reported, or_assoc]
    | ok type =>
      obtain ⟨middle, problems, later, own, others, rfl⟩ := (checkTypes_read parsed).1 judged
      obtain ⟨ownNumbers, ownProblems⟩ := mem_checkMethods own
      obtain ⟨numbers, reported⟩ := ih others
      rw [listedUnder_read entry parsed]
      constructor
      · intro n
        rw [numbers, List.map_append, map_id_listed, taken_append middle _ _ ownNumbers]
      · intro finding
        have readable : ∀ defect, TypeUri.parse key none ≠ .error defect := by
          simp [parsed]
        have here : (∃ problem ∈ problems, (⟨.cha, some key, problem⟩ : Finding) = finding) ↔
            ∃ problem, Somewhere (fun before entry => MethodDefect
              (Taken seen (before.map Prod.fst)) type entry.1 entry.2 problem)
              entry.methods.entries ∧ finding = ⟨.cha, some key, problem⟩ := by
          simp only [ownProblems, eq_comm]
        rw [List.mem_append, List.mem_map, here, reported, somewhere_append, somewhere_map]
        simp only [List.map_append, map_id_listed, taken_append middle _ _ ownNumbers,
          somewhere_exists, somewhere_and, List.exists_mem_cons_iff, readable, false_and,
          exists_false, false_or]
        exact or_left_comm

end Types

/-! Calls. -/

theorem mem_checkInternalCall {numbers : List Nat} {call : Int × Int} {finding : Finding} :
    finding ∈ checkInternalCall numbers call ↔ ∃ i ∈ [call.1, call.2], (∀ n ∈ numbers, i ≠ n) ∧
      finding = ⟨.internalCalls, some (call.1.repr ++ "," ++ call.2.repr), .unknownNumber i⟩ := by
  have unknown : ∀ i : Int,
      (!(numbers.map Int.ofNat).contains i) = true ↔ ∀ n ∈ numbers, i ≠ n := by
    intro i
    rw [Bool.not_eq_true', ← Bool.not_eq_true, List.contains_iff_mem, List.mem_map]
    simp [eq_comm]
  simp only [checkInternalCall, List.mem_map, List.mem_filter, unknown, and_assoc, eq_comm]

theorem checkCaller_eq_some_iff {numbers : List Nat} {text : String} {problem? : Option Problem}
    (judged : checkCaller numbers text = .ok problem?) (problem : Problem) :
    problem? = some problem ↔
      (∀ n ∈ numbers, ¬ StandsFor text n) ∧ problem = .unknownCaller text := by
  obtain ⟨number?, named, judged⟩ := bind_eq_ok.1 judged
  cases number? with
  | none =>
    obtain rfl := Except.ok.inj judged
    have silent : ∀ n, ¬ StandsFor text n := fun n stands => numberOf?_eq_none_iff.1 named stands.1
    simp [silent, eq_comm]
  | some number =>
    obtain rfl := Except.ok.inj judged
    have stands := numberOf?_eq_some_iff.1 named
    have known : number ∈ numbers ↔ ∃ n ∈ numbers, StandsFor text n :=
      ⟨fun mem => ⟨number, mem, stands⟩, fun ⟨n, mem, other⟩ => stands.unique other ▸ mem⟩
    by_cases mem : number ∈ numbers
    · simpa [mem] using fun silent => absurd (known.1 mem) (by simpa using silent)
    · have silent : ∀ n ∈ numbers, ¬ StandsFor text n := by simpa [mem] using known
      simpa [mem, eq_comm] using fun _ => silent

theorem checkCount_eq_some_iff {count kind : String} {problem? : Option Problem}
    (judged : checkCount count kind = .ok problem?) (problem : Problem) :
    problem? = some problem ↔
      (∀ n, StandsFor count n → n = 0) ∧ problem = .invalidCount count kind := by
  obtain ⟨number?, named, judged⟩ := bind_eq_ok.1 judged
  match number? with
  | none =>
    obtain rfl := Except.ok.inj judged
    have silent : ∀ n, ¬ StandsFor count n := fun n stands => numberOf?_eq_none_iff.1 named stands.1
    simp [silent, eq_comm]
  | some 0 =>
    obtain rfl := Except.ok.inj judged
    have only : ∀ n, StandsFor count n → n = 0 := fun n stands =>
      stands.unique (numberOf?_eq_some_iff.1 named)
    simpa [eq_comm] using fun _ => only
  | some (n + 1) =>
    obtain rfl := Except.ok.inj judged
    have stands := numberOf?_eq_some_iff.1 named
    simpa using fun zero => absurd (zero _ stands) (Nat.succ_ne_zero n)

/-- What is wrong with the counted calls under a key, where methods have the
numbers. -/
def CallDefect (numbers : List Nat) (key : String) (counts : Table String String)
    (problem : Problem) : Prop :=
  ((∀ n ∈ numbers, ¬ StandsFor (splitKey key).1 n) ∧ problem = .unknownCaller (splitKey key).1) ∨
  (∃ defect, MethodUri.parse (splitKey key).2 = .error defect ∧ problem = .uri defect) ∨
  ∃ count ∈ counts.entries, (∀ n, StandsFor count.2 n → n = 0) ∧
    problem = .invalidCount count.2 count.1

theorem mem_checkExternalCall {numbers : List Nat} {key : String} {counts : Table String String}
    {findings : List Finding} (judged : checkExternalCall numbers key counts = .ok findings)
    (finding : Finding) : finding ∈ findings ↔ ∃ problem,
      CallDefect numbers key counts problem ∧ finding = ⟨.externalCalls, some key, problem⟩ := by
  unfold CallDefect
  obtain ⟨caller, callee, split⟩ : ∃ caller callee, splitKey key = (caller, callee) := ⟨_, _, rfl⟩
  rw [checkExternalCall, split] at judged
  rw [split]
  obtain ⟨callerProblem, called, judged⟩ := bind_eq_ok.1 judged
  obtain ⟨countProblems, counted, judged⟩ := bind_eq_ok.1 judged
  have callerIff := checkCaller_eq_some_iff called
  have countIff : ∀ problem, some problem ∈ countProblems ↔ ∃ count ∈ counts.entries,
      (∀ n, StandsFor count.2 n → n = 0) ∧ problem = .invalidCount count.2 count.1 := by
    intro problem
    rw [mem_mapM counted]
    refine exists_congr fun count => and_congr_right fun mem => ?_
    obtain ⟨problem?, -, judged⟩ := exists_mapM counted mem
    rw [judged, Except.ok.injEq]
    exact checkCount_eq_some_iff judged problem
  obtain rfl := Except.ok.inj judged
  rw [List.mem_map]
  refine exists_congr fun problem => and_congr ?_ eq_comm
  rw [List.mem_append, List.mem_append, Option.mem_toList, Option.mem_toList, callerIff,
    List.mem_filterMap, or_assoc]
  refine or_congr_right (or_congr ?_ ?_)
  · cases MethodUri.parse callee <;> simp [eq_comm]
  · simpa using countIff problem

/-- The findings about the counted calls are those about each of their keys. -/
theorem mem_externals {numbers : List Nat} {entries : List (String × Table String String)}
    {external : List (List Finding)}
    (judged : (entries.mapM fun (key, counts) =>
      checkExternalCall numbers key counts) = .ok external)
    (finding : Finding) : finding ∈ external.flatten ↔ ∃ key counts problem,
      (key, counts) ∈ entries ∧ CallDefect numbers key counts problem ∧
        finding = ⟨.externalCalls, some key, problem⟩ := by
  rw [List.mem_flatten]
  constructor
  · rintro ⟨found, reported, mem⟩
    obtain ⟨⟨key, counts⟩, here, checked⟩ := (mem_mapM judged).1 reported
    obtain ⟨problem, wrong, same⟩ := (mem_checkExternalCall checked finding).1 mem
    exact ⟨key, counts, problem, here, wrong, same⟩
  · rintro ⟨key, counts, problem, here, wrong, same⟩
    obtain ⟨found, reported, checked⟩ := exists_mapM judged here
    exact ⟨found, reported, (mem_checkExternalCall checked finding).2 ⟨problem, wrong, same⟩⟩

/-- The errors of a judgement are those about types, internal calls and external
ones. -/
theorem errors_of_validate {doc : Revision} {findings : Findings}
    (judged : doc.validate = .ok findings) : ∃ numbers typeFindings external,
      checkTypes [] doc.cha.entries = .ok (numbers, typeFindings) ∧
      (doc.externalCalls.entries.mapM fun (key, counts) =>
        checkExternalCall numbers key counts) = .ok external ∧
      findings.errors = typeFindings ++ doc.internalCalls.flatMap (checkInternalCall numbers) ++
        external.flatten := by
  obtain ⟨⟨numbers, typeFindings⟩, types, judged⟩ := bind_eq_ok.1 judged
  obtain ⟨external, externals, judged⟩ := bind_eq_ok.1 judged
  obtain rfl := Except.ok.inj judged
  exact ⟨numbers, typeFindings, external, types, externals, rfl⟩

/-- The errors in a document are its defects. -/
theorem mem_validate {doc : Revision} {findings : Findings} (judged : doc.validate = .ok findings)
    (finding : Finding) : finding ∈ findings.errors ↔ Defect doc finding := by
  obtain ⟨numbers, typeFindings, external, checked, externals, errors⟩ := errors_of_validate judged
  obtain ⟨numbered, types⟩ := mem_checkTypes checked
  have named : ∀ methods : List Listed, Taken [] (methods.map Listed.id) = Numbered methods := by
    intro methods
    refine funext fun n => propext ?_
    simp [Taken, Numbered]
  simp only [named] at numbered types
  rw [errors, List.mem_append, List.mem_append, types, List.mem_flatMap, mem_externals externals]
  constructor
  · rintro (((⟨⟨key, entry⟩, mem, defect, refused, rfl⟩ |
      ⟨before, method, after, place, problem, wrong, rfl⟩) | ⟨call, mem, found⟩) |
      ⟨key, counts, problem, mem, wrong, rfl⟩)
    · exact .type mem refused
    · exact .method place wrong
    · obtain ⟨i, here, unknown, rfl⟩ := mem_checkInternalCall.1 found
      exact .internal mem here fun n known => unknown n ((numbered n).2 known)
    · obtain ⟨unknown, rfl⟩ | ⟨defect, refused, rfl⟩ | ⟨count, here, invalid, rfl⟩ := wrong
      · exact .caller mem fun n known => unknown n ((numbered n).2 known)
      · exact .callee mem refused
      · exact .count mem here invalid
  · rintro (⟨mem, refused⟩ | ⟨place, wrong⟩ | ⟨mem, here, unknown⟩ | ⟨mem, unknown⟩ |
      ⟨mem, refused⟩ | ⟨mem, here, invalid⟩)
    · exact .inl (.inl (.inl ⟨_, mem, _, refused, rfl⟩))
    · exact .inl (.inl (.inr ⟨_, _, _, place, _, wrong, rfl⟩))
    · exact .inl (.inr ⟨_, mem, mem_checkInternalCall.2 ⟨_, here, fun n known =>
        unknown n ((numbered n).1 known), rfl⟩⟩)
    · exact .inr ⟨_, _, _, mem, .inl ⟨fun n known => unknown n ((numbered n).1 known), rfl⟩, rfl⟩
    · exact .inr ⟨_, _, _, mem, .inr (.inl ⟨_, refused, rfl⟩), rfl⟩
    · exact .inr ⟨_, _, _, mem, .inr (.inr ⟨_, here, invalid, rfl⟩), rfl⟩

/-! When validation reports. -/

/-- The texts of a document that are looked at as numbers. -/
def judgedTexts (doc : Revision) : List String :=
  (listed doc.cha.entries).map Listed.id ++ doc.externalCalls.entries.flatMap fun entry =>
    (splitKey entry.1).1 :: entry.2.entries.map Prod.snd

theorem numberOf?_isOk_iff {text : String} :
    (∃ found, numberOf? text = .ok found) ↔ Legible text := by
  refine ⟨fun ⟨found, named⟩ digits => ?_, exists_numberOf?⟩
  cases found with
  | none => exact absurd digits (numberOf?_eq_none_iff.1 named)
  | some n => exact ⟨n, (numberOf?_eq_some_iff.1 named).2⟩

theorem checkMethods_isOk_iff {type : TypeUri} {seen : List Nat}
    {entries : List (String × String)} :
    (∃ result, checkMethods type seen entries = .ok result) ↔
      ∀ text ∈ entries.map Prod.fst, Legible text := by
  refine ⟨?_, exists_checkMethods type seen⟩
  induction entries generalizing seen with
  | nil => simp
  | cons entry rest ih =>
    obtain ⟨id, uri⟩ := entry
    rintro ⟨result, judged⟩
    rw [checkMethods, bind_eq_ok] at judged
    obtain ⟨number?, named, judged⟩ := judged
    have first := numberOf?_isOk_iff.1 ⟨number?, named⟩
    cases number? with
    | none =>
      obtain ⟨found, later, -⟩ := bind_eq_ok.1 judged
      exact List.forall_mem_cons.2 ⟨first, ih ⟨found, later⟩⟩
    | some number =>
      obtain ⟨found, later, -⟩ := bind_eq_ok.1 judged
      exact List.forall_mem_cons.2 ⟨first, ih ⟨found, later⟩⟩

/-- Only the methods of the types that can be read have to be legible. -/
theorem checkTypes_isOk_iff {seen : List Nat} {entries : List (String × TypeEntry)} :
    (∃ found findings, checkTypes seen entries = .ok (found, findings)) ↔
      ∀ text ∈ (listed entries).map Listed.id, Legible text := by
  induction entries generalizing seen with
  | nil => exact ⟨fun _ => by simp [listed], fun _ => ⟨_, _, rfl⟩⟩
  | cons entry rest ih =>
    obtain ⟨key, entry⟩ := entry
    rw [listed_cons, List.map_append, List.forall_mem_append]
    cases parsed : TypeUri.parse key none with
    | error defect =>
      simp only [checkTypes_unread parsed, listedUnder_unread entry parsed]
      constructor
      · rintro ⟨found, _, later, others, -⟩
        exact ⟨by simp, ih.1 ⟨found, later, others⟩⟩
      · rintro ⟨-, legible⟩
        obtain ⟨found, later, others⟩ := ih.2 legible
        exact ⟨found, _, later, others, rfl⟩
    | ok type =>
      simp only [checkTypes_read parsed, listedUnder_read entry parsed, map_id_listed]
      rw [← @checkMethods_isOk_iff type seen]
      constructor
      · rintro ⟨found, _, middle, problems, later, own, others, -⟩
        exact ⟨⟨_, own⟩, ih.1 ⟨found, later, others⟩⟩
      · rintro ⟨⟨⟨middle, problems⟩, own⟩, legible⟩
        obtain ⟨found, later, others⟩ := ih.2 legible
        exact ⟨found, _, middle, problems, later, own, others, rfl⟩

theorem checkExternalCall_isOk_iff {numbers : List Nat} {key : String}
    {counts : Table String String} :
    (∃ findings, checkExternalCall numbers key counts = .ok findings) ↔
      ∀ text ∈ (splitKey key).1 :: counts.entries.map Prod.snd, Legible text := by
  refine ⟨?_, exists_checkExternalCall numbers⟩
  rintro ⟨findings, judged⟩
  obtain ⟨caller, callee, split⟩ : ∃ caller callee, splitKey key = (caller, callee) := ⟨_, _, rfl⟩
  rw [checkExternalCall, split] at judged
  rw [split, List.forall_mem_cons, List.forall_mem_map]
  obtain ⟨callerProblem, called, judged⟩ := bind_eq_ok.1 judged
  obtain ⟨countProblems, counted, -⟩ := bind_eq_ok.1 judged
  constructor
  · obtain ⟨number?, named, -⟩ := bind_eq_ok.1 called
    exact numberOf?_isOk_iff.1 ⟨number?, named⟩
  · intro count mem
    obtain ⟨problem?, -, judged⟩ := exists_mapM counted mem
    obtain ⟨number?, named, -⟩ := bind_eq_ok.1 judged
    exact numberOf?_isOk_iff.1 ⟨number?, named⟩

theorem validate_isOk_iff {doc : Revision} :
    (∃ findings, doc.validate = .ok findings) ↔ ∀ text ∈ doc.judgedTexts, Legible text := by
  rw [judgedTexts, List.forall_mem_append, ← @checkTypes_isOk_iff []]
  constructor
  · rintro ⟨findings, judged⟩
    obtain ⟨numbers, typeFindings, external, checked, externals, -⟩ := errors_of_validate judged
    refine ⟨⟨numbers, typeFindings, checked⟩, fun text mem => ?_⟩
    obtain ⟨entry, entryMem, mem⟩ := List.mem_flatMap.1 mem
    obtain ⟨findings, -, judged⟩ := exists_mapM externals entryMem
    exact checkExternalCall_isOk_iff.1 ⟨findings, judged⟩ text mem
  · rintro ⟨⟨numbers, typeFindings, checked⟩, legible⟩
    obtain ⟨external, externals⟩ := mapM_ok fun entry mem =>
      exists_checkExternalCall numbers fun text textMem =>
        legible text (List.mem_flatMap.2 ⟨entry, mem, textMem⟩)
    exact ⟨_, bind_eq_ok.2 ⟨_, checked, bind_eq_ok.2 ⟨external, externals, rfl⟩⟩⟩

/-- A file holds one document. -/
theorem Holds.unique {contents : Except SystemError Octets} {doc doc' : Revision}
    (holds : Holds contents doc) (holds' : Holds contents doc') : doc = doc' := by
  obtain ⟨octets, value, there, read, follows⟩ := holds
  obtain ⟨octets', value', there', read', follows'⟩ := holds'
  obtain rfl := Except.ok.inj (there.symm.trans there')
  obtain rfl := Option.some.inj (read.symm.trans read')
  exact Except.ok.inj (follows.symm.trans follows')

section File

variable [Platform]

/-- The one defect of a file without a document. -/
theorem fileDefect_only {contents : Except SystemError Octets} {finding : Finding}
    (nothing : ¬ ∃ doc, Holds contents doc) (wrong : FileDefect contents finding)
    (other : Finding) : FileDefect contents other ↔ other = finding := by
  refine ⟨fun wrong' => ?_, fun same => same ▸ wrong⟩
  rcases wrong with refused | ⟨there, none⟩ | ⟨there, content, refused⟩ | ⟨holds, -⟩
  · rcases wrong' with refused' | ⟨there', -⟩ | ⟨there', -, -⟩ | ⟨holds, -⟩
    · obtain rfl := Except.error.inj (refused.symm.trans refused')
      rfl
    · cases refused.symm.trans there'
    · cases refused.symm.trans there'
    · exact absurd ⟨_, holds⟩ nothing
  · rcases wrong' with refused' | ⟨there', -⟩ | ⟨there', content', -⟩ | ⟨holds, -⟩
    · cases there.symm.trans refused'
    · obtain rfl := Except.ok.inj (there.symm.trans there')
      rfl
    · obtain rfl := Except.ok.inj (there.symm.trans there')
      cases none.symm.trans content'
    · exact absurd ⟨_, holds⟩ nothing
  · rcases wrong' with refused' | ⟨there', none'⟩ | ⟨there', content', refused'⟩ | ⟨holds, -⟩
    · cases there.symm.trans refused'
    · obtain rfl := Except.ok.inj (there.symm.trans there')
      cases content.symm.trans none'
    · obtain rfl := Except.ok.inj (there.symm.trans there')
      obtain rfl := Option.some.inj (content.symm.trans content')
      obtain rfl := Except.error.inj (refused.symm.trans refused')
      rfl
    · exact absurd ⟨_, holds⟩ nothing
  · exact absurd ⟨_, holds⟩ nothing

/-- Without a document that follows the schema there is one error. -/
theorem validateFile_cases (contents : Except SystemError Octets) :
    (∃ doc, Holds contents doc ∧ validateFile contents = doc.validate) ∨
    (¬ ∃ doc, Holds contents doc) ∧ ∃ finding, validateFile contents = .ok ⟨[finding], []⟩ ∧
      ∀ other, FileDefect contents other ↔ other = finding := by
  cases contents with
  | error e =>
    have nothing : ¬ ∃ doc, Holds (.error e) doc := by
      rintro ⟨doc, octets, value, there, -⟩
      cases there
    exact .inr ⟨nothing, _, rfl, fileDefect_only nothing (.unread rfl)⟩
  | ok octets =>
    cases content : Json.ofOctets? .strict octets with
    | none =>
      have nothing : ¬ ∃ doc, Holds (.ok octets) doc := by
        rintro ⟨doc, octets', value, there, read, -⟩
        obtain rfl := Except.ok.inj there
        cases content.symm.trans read
      exact .inr ⟨nothing, _, by simp only [validateFile, content]; rfl,
        fileDefect_only nothing (.noJson rfl content)⟩
    | some value =>
      cases schema : ofJson value with
      | error defects =>
        have nothing : ¬ ∃ doc, Holds (.ok octets) doc := by
          rintro ⟨doc, octets', value', there, read, follows⟩
          obtain rfl := Except.ok.inj there
          obtain rfl := Option.some.inj (content.symm.trans read)
          cases schema.symm.trans follows
        exact .inr ⟨nothing, _, by simp only [validateFile, content, schema]; rfl,
          fileDefect_only nothing (.schema rfl content schema)⟩
      | ok doc =>
        exact .inl ⟨doc, ⟨octets, value, rfl, content, schema⟩,
          by simp only [validateFile, content, schema]⟩

/-- **Validation reports every defect and nothing else, if it reports at all.**
A file that cannot be read, is no JSON or does not follow the schema has one
error. Of a document, the errors are its defects. It is not judged exactly if one
of the texts that are looked at as numbers is made of digits and is no number. -/
theorem validateFile_errors (contents : Except SystemError Octets) :
    ((∃ findings, validateFile contents = .ok findings) ↔
      ∀ doc, Holds contents doc → ∀ text ∈ doc.judgedTexts, Legible text) ∧
    ∀ findings, validateFile contents = .ok findings →
      ∀ finding, finding ∈ findings.errors ↔ FileDefect contents finding := by
  obtain ⟨doc, holds, same⟩ | ⟨nothing, finding, reported, only⟩ := validateFile_cases contents
  · rw [same, validate_isOk_iff]
    constructor
    · exact ⟨fun legible doc' holds' => holds'.unique holds ▸ legible,
        fun legible => legible doc holds⟩
    · intro findings judged finding
      rw [mem_validate judged]
      refine ⟨.document holds, ?_⟩
      obtain ⟨octets, value, there, content, schema⟩ := holds
      rintro (refused | ⟨there', none⟩ | ⟨there', content', refused⟩ | ⟨holds', wrong⟩)
      · cases there.symm.trans refused
      · obtain rfl := Except.ok.inj (there.symm.trans there')
        cases content.symm.trans none
      · obtain rfl := Except.ok.inj (there.symm.trans there')
        obtain rfl := Option.some.inj (content.symm.trans content')
        cases schema.symm.trans refused
      · exact holds'.unique ⟨octets, value, there, content, schema⟩ ▸ wrong
  · constructor
    · exact ⟨fun _ doc holds => absurd ⟨doc, holds⟩ nothing, fun _ => ⟨_, reported⟩⟩
    · intro findings judged other
      obtain rfl := Except.ok.inj (reported.symm.trans judged)
      rw [only]
      exact List.mem_singleton

end File

/-- A file with one type, whose method has a superscript for a number. -/
def superscript (key : String) : Octets :=
  Text.encodeUtf8 (
    "\x7b\"product\":\"g:a\",\"version\":\"1\",\"timestamp\":0,\"cha\":\x7b\"".toList ++ key.toList ++
    "\":\x7b\"methods\":\x7b\"²\":\"/a/T.f()%2Fjava.lang%2FVoidType\"\x7d\x7d\x7d\x7d".toList)

section

open scoped Platform

/-- Under a type that cannot be read the superscript is passed over. -/
theorem validateFile_errors_passedOver : ∃ findings,
    validateFile (.ok (superscript "a")) = .ok findings ∧
    ∀ finding, finding ∈ findings.errors ↔ FileDefect (.ok (superscript "a")) finding := by
  have judged : (validateFile (.ok (superscript "a"))).isOk = true := by decide +kernel
  cases reported : validateFile (.ok (superscript "a")) with
  | error defect =>
    rw [reported] at judged
    cases judged
  | ok findings => exact ⟨findings, rfl, (validateFile_errors _).2 findings reported⟩

/-- Under any other type nothing is reported. -/
theorem validateFile_notDecimal :
    validateFile (.ok (superscript "/a/T")) = .error .notDecimal := by
  decide +kernel

end

end CallGraph.Revision
