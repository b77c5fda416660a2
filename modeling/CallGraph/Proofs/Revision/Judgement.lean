import CallGraph.Proofs.Revision.RoundTrip
import CallGraph.Proofs.Revision.Validity
import CallGraph.Proofs.Text.Cut

/-! Validation finds every inconsistency and no other. It goes through a document
once, passes over the methods of types that cannot be read and over numbers that
are no numbers, and carries the numbers it has seen from type to type. Where it
reports nothing, it has passed over nothing, so it has seen all numbers. -/
namespace CallGraph.Revision
open Listing

/-- The text is made of digits, and they form the number. -/
def StandsFor (text : String) (n : Nat) : Prop :=
  Text.allDigits text = true ∧ Text.numeral text.toList = .ok n

/-- The text is a number if it is made of digits. -/
def Legible (text : String) : Prop :=
  Text.allDigits text = true → ∃ n, Text.numeral text.toList = .ok n

/-- What stands for the numbers of the methods, over all types. -/
def idTexts (doc : Revision) : List String :=
  doc.cha.entries.flatMap fun entry => entry.2.methods.keys

/-- What stands where a number is wanted: for methods, for callers and for
counts. -/
def numberTexts (doc : Revision) : List String :=
  doc.idTexts ++ doc.externalCalls.entries.flatMap fun entry =>
    (splitKey entry.1).1 :: entry.2.entries.map Prod.snd

/-- Types and methods can be read, each method belongs to its type and has a
number of its own, and calls go from these numbers to these numbers or to methods
that can be read. -/
structure SelfConsistent (doc : Revision) : Prop where
  types : ∀ entry ∈ doc.cha.entries, ∃ type, TypeUri.parse entry.1 none = .ok type ∧
    ∀ uri ∈ entry.2.methods.entries.map Prod.snd, ∃ method, MethodUri.parse uri = .ok method ∧
      method.typeUri = type
  digits : ∀ text ∈ doc.idTexts, Text.allDigits text = true
  distinct : (doc.idTexts.map fun text => Text.numeral text.toList).Nodup
  internal : ∀ call ∈ doc.internalCalls, ∀ i ∈ [call.1, call.2],
    ∃ text ∈ doc.idTexts, ∃ n, StandsFor text n ∧ i = (n : Int)
  external : ∀ entry ∈ doc.externalCalls.entries, ∃ caller callee,
    entry.1 = caller ++ "," ++ callee ∧ ',' ∉ caller.toList ∧
    (∃ n, StandsFor caller n ∧ ∃ text ∈ doc.idTexts, StandsFor text n) ∧
    ∃ method, MethodUri.parse callee = .ok method
  counts : ∀ entry ∈ doc.externalCalls.entries, ∀ count ∈ entry.2.entries,
    ∃ n, StandsFor count.2 n ∧ 1 ≤ n

/-! Numbers. -/

theorem numberOf?_eq_some_iff {text : String} {n : Nat} :
    numberOf? text = .ok (some n) ↔ StandsFor text n := by
  rw [numberOf?, StandsFor]
  split
  · next digits =>
    cases numeral : Text.numeral text.toList <;> simp [Except.map, digits]
  · next digits => simp [digits]

theorem exists_numberOf? {text : String} (legible : Legible text) :
    ∃ found, numberOf? text = .ok found := by
  rw [numberOf?]
  split
  · next digits =>
    obtain ⟨n, read⟩ := legible digits
    exact ⟨some n, by rw [read]; rfl⟩
  · exact ⟨none, rfl⟩

theorem checkMethod_eq_none_iff {type : TypeUri} {uri : String} :
    checkMethod type uri = none ↔ ∃ method, MethodUri.parse uri = .ok method ∧
      method.typeUri = type := by
  rw [checkMethod]
  cases MethodUri.parse uri with
  | error defect => simp
  | ok method =>
    by_cases own : method.typeUri = type <;> simp [own]

/-- No method is written as nothing at all. -/
theorem parse_empty : ∀ method, MethodUri.parse "" ≠ .ok method := by
  intro method read
  have refused : (MethodUri.parse "").isOk = false := by decide
  rw [read] at refused
  cases refused

/-! Types and methods. -/

variable {numbers : List Nat}

/-- Where nothing is reported of the methods of a type, their numbers are new and
are the only ones that are found. -/
theorem declares_of_checkMethods {type : TypeUri} {seen found : List Nat}
    {entries : List (String × String)} (distinct : seen.Nodup)
    (quiet : checkMethods type seen entries = .ok (found, [])) :
    ∃ numbers, List.Forall₂ (Declares type) entries numbers ∧ found = numbers.reverse ++ seen ∧
      (numbers ++ seen).Nodup := by
  induction entries generalizing seen with
  | nil =>
    obtain ⟨rfl, -⟩ := Prod.mk.inj (Except.ok.inj quiet)
    exact ⟨[], .nil, rfl, distinct⟩
  | cons entry rest ih =>
    obtain ⟨id, uri⟩ := entry
    rw [checkMethods, bind_eq_ok] at quiet
    obtain ⟨number?, named, quiet⟩ := quiet
    cases number? with
    | none =>
      obtain ⟨⟨_, problems⟩, -, reported⟩ := bind_eq_ok.1 quiet
      cases (Prod.mk.inj (Except.ok.inj reported)).2
    | some number =>
      obtain ⟨⟨found', problems⟩, later, reported⟩ := bind_eq_ok.1 quiet
      obtain ⟨rfl, silent⟩ := Prod.mk.inj (Except.ok.inj reported)
      obtain ⟨unseen, fine, rfl⟩ : number ∉ seen ∧ checkMethod type uri = none ∧ problems = [] := by
        simpa using silent
      obtain ⟨numbers, declared, rfl, new⟩ := ih (List.nodup_cons.2 ⟨unseen, distinct⟩) later
      refine ⟨number :: numbers, .cons ⟨named, fine⟩ declared, by simp, ?_⟩
      rw [List.cons_append]
      exact List.perm_middle.nodup_iff.1 new

/-- Where nothing is reported of types, each of them is read, and the numbers of
their methods are new and are the only ones that are found. -/
theorem lists_of_checkTypes {seen found : List Nat} {entries : List (String × TypeEntry)}
    (distinct : seen.Nodup) (quiet : checkTypes seen entries = .ok (found, [])) :
    ∃ numbers, List.Forall₂ Lists entries numbers ∧ found = numbers.flatten.reverse ++ seen ∧
      (numbers.flatten ++ seen).Nodup := by
  induction entries generalizing seen with
  | nil =>
    obtain ⟨rfl, -⟩ := Prod.mk.inj (Except.ok.inj quiet)
    exact ⟨[], .nil, rfl, distinct⟩
  | cons entry rest ih =>
    obtain ⟨key, entry⟩ := entry
    rw [checkTypes] at quiet
    cases parsed : TypeUri.parse key none with
    | error defect =>
      rw [parsed] at quiet
      obtain ⟨_, first, quiet⟩ := bind_eq_ok.1 quiet
      obtain rfl := Except.ok.inj first
      obtain ⟨⟨_, findings⟩, -, reported⟩ := bind_eq_ok.1 quiet
      cases (Prod.mk.inj (Except.ok.inj reported)).2
    | ok type =>
      rw [parsed] at quiet
      obtain ⟨⟨middle, problems⟩, first, quiet⟩ := bind_eq_ok.1 quiet
      obtain ⟨⟨found', findings⟩, later, reported⟩ := bind_eq_ok.1 quiet
      obtain ⟨rfl, silent⟩ := Prod.mk.inj (Except.ok.inj reported)
      obtain ⟨rfl, rfl⟩ : problems = [] ∧ findings = [] := by simpa using silent
      obtain ⟨numbers, declared, rfl, new⟩ := declares_of_checkMethods distinct first
      have middleDistinct : (numbers.reverse ++ seen).Nodup :=
        ((List.reverse_perm numbers).append_right seen).nodup_iff.2 new
      obtain ⟨more, listed, rfl, allNew⟩ := ih middleDistinct later
      refine ⟨numbers :: more, .cons ⟨type, parsed, declared⟩ listed, by simp, ?_⟩
      rw [List.flatten_cons, List.append_assoc]
      exact (perm_found numbers more.flatten seen).nodup_iff.2 allNew

/-! Calls. -/

theorem known_of_checkInternalCall {call : Int × Int}
    (quiet : checkInternalCall numbers call = []) :
    ∀ i ∈ [call.1, call.2], ∃ n ∈ numbers, i = (n : Int) := by
  intro i mem
  have listed := List.filter_eq_nil_iff.1 (List.map_eq_nil_iff.1 quiet) i mem
  rw [Bool.not_eq_true, Bool.not_eq_false', List.contains_iff_mem] at listed
  obtain ⟨n, found, rfl⟩ := List.mem_map.1 listed
  exact ⟨n, found, rfl⟩

theorem named_of_checkCaller {text : String} (quiet : checkCaller numbers text = .ok none) :
    ∃ number, numberOf? text = .ok (some number) ∧ number ∈ numbers := by
  obtain ⟨number?, named, quiet⟩ := bind_eq_ok.1 quiet
  cases number? with
  | none => cases Except.ok.inj quiet
  | some number =>
    refine ⟨number, named, ?_⟩
    by_contra unknown
    simp [unknown, pure, Except.pure] at quiet

theorem positive_of_checkCount {count kind : String} (quiet : checkCount count kind = .ok none) :
    ∃ n, numberOf? count = .ok (some (n + 1)) := by
  obtain ⟨number?, named, quiet⟩ := bind_eq_ok.1 quiet
  match number? with
  | none => cases Except.ok.inj quiet
  | some 0 => cases Except.ok.inj quiet
  | some (n + 1) => exact ⟨n, named⟩

/-- Where nothing is reported of external calls, caller, callee and counts can be
read. -/
theorem known_of_checkExternalCall {key : String} {counts : Table String String}
    (quiet : checkExternalCall numbers key counts = .ok []) :
    ∃ caller callee number method, splitKey key = (caller, callee) ∧
      numberOf? caller = .ok (some number) ∧ number ∈ numbers ∧
      MethodUri.parse callee = .ok method ∧
      ∀ count ∈ counts.entries, ∃ n, numberOf? count.2 = .ok (some (n + 1)) := by
  obtain ⟨caller, callee, split⟩ : ∃ caller callee, splitKey key = (caller, callee) := ⟨_, _, rfl⟩
  rw [checkExternalCall, split] at quiet
  obtain ⟨callerProblem, called, quiet⟩ := bind_eq_ok.1 quiet
  obtain ⟨countProblems, counted, quiet⟩ := bind_eq_ok.1 quiet
  have silent := List.map_eq_nil_iff.1 (Except.ok.inj quiet)
  rw [List.append_eq_nil_iff, List.append_eq_nil_iff] at silent
  obtain ⟨⟨callerFine, calleeFine⟩, countsFine⟩ := silent
  obtain rfl := Option.toList_eq_nil_iff.1 callerFine
  obtain ⟨number, named, known⟩ := named_of_checkCaller called
  cases read : MethodUri.parse callee with
  | error defect => simp [read] at calleeFine
  | ok method =>
    refine ⟨caller, callee, number, method, split, named, known, read, fun count mem => ?_⟩
    obtain ⟨problem, listed, judged⟩ := exists_mapM counted mem
    obtain rfl : problem = none := List.filterMap_eq_nil_iff.1 countsFine problem listed
    exact positive_of_checkCount judged

/-! Documents. -/

/-- The document under the names that documents carry. -/
def renamed (doc : Revision) : Revision :=
  { doc with forge := forgeName, generator := generatorName }

/-- Names draw warnings and no errors. -/
theorem errors_of_renamed {doc : Revision} {findings : Findings}
    (judged : doc.renamed.validate = .ok findings) :
    ∃ findings', doc.validate = .ok findings' ∧ findings'.errors = findings.errors := by
  obtain ⟨types, checked, judged⟩ := bind_eq_ok.1 judged
  obtain ⟨external, externals, judged⟩ := bind_eq_ok.1 judged
  obtain rfl := Except.ok.inj judged
  exact ⟨_, bind_eq_ok.2 ⟨types, checked, bind_eq_ok.2 ⟨external, externals, rfl⟩⟩, rfl⟩

/-- Where validation reports no error, it has found number lists for the types
under which nothing is wrong. -/
theorem consistent_of_validate {doc : Revision} {findings : Findings}
    (judged : doc.validate = .ok findings) (quiet : findings.errors = []) :
    ∃ numbers, Consistent doc.renamed numbers := by
  obtain ⟨⟨found, typeFindings⟩, types, judged⟩ := bind_eq_ok.1 judged
  obtain ⟨external, externals, judged⟩ := bind_eq_ok.1 judged
  obtain rfl := Except.ok.inj judged
  rw [List.append_eq_nil_iff, List.append_eq_nil_iff] at quiet
  obtain ⟨⟨rfl, internalFine⟩, externalFine⟩ := quiet
  obtain ⟨numbers, listed, rfl, distinct⟩ := lists_of_checkTypes List.nodup_nil types
  rw [List.append_nil] at distinct externals internalFine
  have calls : ∀ entry ∈ doc.externalCalls.entries, ∃ caller callee number method,
      splitKey entry.1 = (caller, callee) ∧ numberOf? caller = .ok (some number) ∧
      number ∈ numbers.flatten.reverse ∧ MethodUri.parse callee = .ok method ∧
      ∀ count ∈ entry.2.entries, ∃ n, numberOf? count.2 = .ok (some (n + 1)) := by
    intro entry mem
    obtain ⟨findings, listed, judged⟩ := exists_mapM externals mem
    obtain rfl := List.flatten_eq_nil_iff.1 externalFine findings listed
    exact known_of_checkExternalCall judged
  refine ⟨numbers, listed, distinct, ?_, ?_, ?_, rfl, rfl⟩
  · intro call mem i here
    have fine := List.flatMap_eq_nil_iff.1 internalFine call mem
    obtain ⟨n, found, same⟩ := known_of_checkInternalCall fine i here
    exact ⟨n, List.mem_reverse.1 found, same⟩
  · intro entry mem
    obtain ⟨caller, callee, number, method, split, named, known, read, -⟩ := calls entry mem
    exact ⟨caller, callee, number, method, split, named, List.mem_reverse.1 known, read⟩
  · intro entry mem
    obtain ⟨-, -, -, -, -, -, -, -, positive⟩ := calls entry mem
    exact positive

/-! Number lists and texts. -/

/-- The numbers of a document's methods are what their texts stand for. -/
theorem standsFor_numbers {entries : List (String × TypeEntry)} {numbers : List (List Nat)}
    (listed : List.Forall₂ Lists entries numbers) :
    List.Forall₂ StandsFor (entries.flatMap fun entry => entry.2.methods.keys) numbers.flatten := by
  induction listed with
  | nil => exact .nil
  | @cons entry numbers entries more first _ ih =>
    obtain ⟨type, -, declared⟩ := first
    rw [List.flatMap_cons, List.flatten_cons]
    refine List.rel_append ?_ ih
    rw [Table.keys, List.forall₂_map_left_iff]
    exact declared.imp fun _ _ declares => numberOf?_eq_some_iff.1 declares.1

theorem mem_numbers_iff {texts : List String} {numbers : List Nat}
    (stand : List.Forall₂ StandsFor texts numbers) {n : Nat} :
    n ∈ numbers ↔ ∃ text ∈ texts, StandsFor text n := by
  induction stand with
  | nil => simp
  | @cons text number _ _ first _ ih =>
    have only : StandsFor text n ↔ n = number :=
      ⟨fun reads => Except.ok.inj (reads.2.symm.trans first.2), fun same => same ▸ first⟩
    simp only [List.mem_cons, exists_eq_or_imp, only, ih]

theorem map_numeral {texts : List String} {numbers : List Nat}
    (stand : List.Forall₂ StandsFor texts numbers) :
    (texts.map fun text => Text.numeral text.toList) = numbers.map Except.ok := by
  induction stand with
  | nil => rfl
  | cons first _ ih => rw [List.map_cons, List.map_cons, first.2, ih]

/-- The texts of numbers are apart when the numbers are. -/
theorem nodup_numbers_iff {texts : List String} {numbers : List Nat}
    (stand : List.Forall₂ StandsFor texts numbers) :
    (texts.map fun text => Text.numeral text.toList).Nodup ↔ numbers.Nodup := by
  rw [map_numeral stand]
  exact List.nodup_map_iff fun _ _ => Except.ok.inj

/-- The key of a call that leads to a method has a comma, and it is taken apart
at the first one. -/
theorem splitKey_eq_iff {key caller callee : String} {method : MethodUri}
    (read : MethodUri.parse callee = .ok method) :
    splitKey key = (caller, callee) ↔ key = caller ++ "," ++ callee ∧ ',' ∉ caller.toList := by
  have chars : (caller ++ "," ++ callee).toList = caller.toList ++ ',' :: callee.toList := by simp
  constructor
  · intro split
    cases cut : Text.cutFirst? ',' key.toList with
    | none =>
      rw [splitKey, cut] at split
      obtain ⟨-, rfl⟩ := Prod.mk.inj split
      exact absurd read (parse_empty method)
    | some parts =>
      obtain ⟨before, after⟩ := parts
      rw [splitKey, cut] at split
      obtain ⟨rfl, rfl⟩ := Prod.mk.inj split
      obtain ⟨whole, free⟩ := Text.cutFirst?_eq_some cut
      rw [String.toList_ofList, String.toList_ofList] at chars
      exact ⟨String.toList_inj.1 (whole.trans chars.symm), by rwa [String.toList_ofList]⟩
  · rintro ⟨rfl, free⟩
    rw [splitKey, chars, Text.cutFirst?_append free]
    simp only [String.ofList_toList]

/-- What is asked of a document asks for number lists under which nothing is
wrong. -/
theorem SelfConsistent.exists_numbers {doc : Revision}
    (legible : ∀ text ∈ doc.idTexts, Legible text) (consistent : SelfConsistent doc) :
    ∃ numbers, Consistent doc.renamed numbers := by
  have lists : ∀ entry ∈ doc.cha.entries, ∃ numbers, Lists entry numbers := by
    intro entry mem
    obtain ⟨type, parsed, own⟩ := consistent.types entry mem
    obtain ⟨numbers, declared⟩ : ∃ numbers,
        List.Forall₂ (Declares type) entry.2.methods.entries numbers := by
      refine exists_forall₂ fun method methodMem => ?_
      have listed : method.1 ∈ doc.idTexts :=
        List.mem_flatMap.2 ⟨entry, mem, List.mem_map_of_mem methodMem⟩
      have digits := consistent.digits _ listed
      obtain ⟨n, reads⟩ := legible _ listed digits
      exact ⟨n, numberOf?_eq_some_iff.2 ⟨digits, reads⟩,
        checkMethod_eq_none_iff.2 (own _ (List.mem_map_of_mem methodMem))⟩
    exact ⟨numbers, type, parsed, declared⟩
  obtain ⟨numbers, listed⟩ := exists_forall₂ lists
  have stand := standsFor_numbers listed
  refine ⟨numbers, listed, (nodup_numbers_iff stand).1 consistent.distinct, ?_, ?_, ?_, rfl, rfl⟩
  · intro call mem i here
    obtain ⟨text, textMem, n, stands, same⟩ := consistent.internal call mem i here
    exact ⟨n, (mem_numbers_iff stand).2 ⟨text, textMem, stands⟩, same⟩
  · intro entry mem
    obtain ⟨caller, callee, same, free, ⟨n, stands, known⟩, method, read⟩ :=
      consistent.external entry mem
    exact ⟨caller, callee, n, method, (splitKey_eq_iff read).2 ⟨same, free⟩,
      numberOf?_eq_some_iff.2 stands, (mem_numbers_iff stand).2 known, read⟩
  · intro entry mem count countMem
    obtain ⟨n, stands, positive⟩ := consistent.counts entry mem count countMem
    refine ⟨n - 1, ?_⟩
    rw [Nat.sub_add_cancel positive]
    exact numberOf?_eq_some_iff.2 stands

theorem Consistent.selfConsistent {doc : Revision} {numbers : List (List Nat)}
    (consistent : Consistent doc.renamed numbers) : SelfConsistent doc := by
  have stand : List.Forall₂ StandsFor doc.idTexts numbers.flatten :=
    standsFor_numbers consistent.types
  constructor
  case types =>
    intro entry mem
    obtain ⟨_, -, type, parsed, declared⟩ := exists_of_forall₂ consistent.types mem
    refine ⟨type, parsed, fun uri uriMem => ?_⟩
    obtain ⟨method, methodMem, rfl⟩ := List.mem_map.1 uriMem
    obtain ⟨_, -, -, fine⟩ := exists_of_forall₂ declared methodMem
    exact checkMethod_eq_none_iff.1 fine
  case digits =>
    intro text mem
    obtain ⟨_, -, digits, -⟩ := exists_of_forall₂ stand mem
    exact digits
  case distinct => exact (nodup_numbers_iff stand).2 consistent.distinct
  case internal =>
    intro call mem i here
    obtain ⟨n, found, same⟩ := consistent.internal call mem i here
    obtain ⟨text, textMem, stands⟩ := (mem_numbers_iff stand).1 found
    exact ⟨text, textMem, n, stands, same⟩
  case external =>
    intro entry mem
    obtain ⟨caller, callee, n, method, split, named, known, read⟩ := consistent.external entry mem
    obtain ⟨same, free⟩ := (splitKey_eq_iff read).1 split
    exact ⟨caller, callee, same, free, ⟨n, numberOf?_eq_some_iff.1 named,
      (mem_numbers_iff stand).1 known⟩, method, read⟩
  case counts =>
    intro entry mem count countMem
    obtain ⟨n, read⟩ := consistent.counts entry mem count countMem
    exact ⟨n + 1, numberOf?_eq_some_iff.1 read, Nat.le_add_left 1 n⟩

/-! Legible documents are judged. -/

theorem exists_checkMethods (type : TypeUri) (seen : List Nat) {entries : List (String × String)}
    (legible : ∀ text ∈ entries.map Prod.fst, Legible text) :
    ∃ result, checkMethods type seen entries = .ok result := by
  induction entries generalizing seen with
  | nil => exact ⟨_, rfl⟩
  | cons entry rest ih =>
    obtain ⟨id, uri⟩ := entry
    rw [List.map_cons, List.forall_mem_cons] at legible
    obtain ⟨number?, named⟩ := exists_numberOf? legible.1
    cases number? with
    | none =>
      obtain ⟨result, later⟩ := ih seen legible.2
      exact ⟨_, bind_eq_ok.2 ⟨_, named, bind_eq_ok.2 ⟨result, later, rfl⟩⟩⟩
    | some number =>
      obtain ⟨result, later⟩ := ih (number :: seen) legible.2
      exact ⟨_, bind_eq_ok.2 ⟨_, named, bind_eq_ok.2 ⟨result, later, rfl⟩⟩⟩

theorem exists_checkTypes (seen : List Nat) {entries : List (String × TypeEntry)}
    (legible : ∀ text ∈ entries.flatMap (fun entry => entry.2.methods.keys), Legible text) :
    ∃ result, checkTypes seen entries = .ok result := by
  induction entries generalizing seen with
  | nil => exact ⟨_, rfl⟩
  | cons entry rest ih =>
    obtain ⟨key, entry⟩ := entry
    rw [List.flatMap_cons, List.forall_mem_append] at legible
    rw [checkTypes]
    cases TypeUri.parse key none with
    | error defect =>
      obtain ⟨result, later⟩ := ih seen legible.2
      exact ⟨_, bind_eq_ok.2 ⟨_, rfl, bind_eq_ok.2 ⟨result, later, rfl⟩⟩⟩
    | ok type =>
      obtain ⟨⟨middle, problems⟩, first⟩ := exists_checkMethods type seen legible.1
      obtain ⟨result, later⟩ := ih middle legible.2
      exact ⟨_, bind_eq_ok.2 ⟨_, first, bind_eq_ok.2 ⟨result, later, rfl⟩⟩⟩

theorem exists_checkCaller (numbers : List Nat) {text : String} (legible : Legible text) :
    ∃ problem, checkCaller numbers text = .ok problem := by
  obtain ⟨number?, named⟩ := exists_numberOf? legible
  cases number? with
  | none => exact ⟨_, bind_eq_ok.2 ⟨_, named, rfl⟩⟩
  | some number => exact ⟨_, bind_eq_ok.2 ⟨_, named, rfl⟩⟩

theorem exists_checkCount {count : String} (legible : Legible count) (kind : String) :
    ∃ problem, checkCount count kind = .ok problem := by
  obtain ⟨number?, named⟩ := exists_numberOf? legible
  match number? with
  | none => exact ⟨_, bind_eq_ok.2 ⟨_, named, rfl⟩⟩
  | some 0 => exact ⟨_, bind_eq_ok.2 ⟨_, named, rfl⟩⟩
  | some (n + 1) => exact ⟨_, bind_eq_ok.2 ⟨_, named, rfl⟩⟩

theorem exists_checkExternalCall (numbers : List Nat) {key : String} {counts : Table String String}
    (legible : ∀ text ∈ (splitKey key).1 :: counts.entries.map Prod.snd, Legible text) :
    ∃ findings, checkExternalCall numbers key counts = .ok findings := by
  rw [List.forall_mem_cons, List.forall_mem_map] at legible
  obtain ⟨problem, called⟩ := exists_checkCaller numbers legible.1
  obtain ⟨problems, counted⟩ :=
    mapM_ok fun count mem => exists_checkCount (legible.2 count mem) count.1
  exact ⟨_, bind_eq_ok.2 ⟨problem, called, bind_eq_ok.2 ⟨problems, counted, rfl⟩⟩⟩

theorem exists_validate {doc : Revision} (legible : ∀ text ∈ doc.numberTexts, Legible text) :
    ∃ findings, doc.validate = .ok findings := by
  rw [numberTexts, List.forall_mem_append] at legible
  obtain ⟨types, checked⟩ := exists_checkTypes [] legible.1
  obtain ⟨external, externals⟩ := mapM_ok fun entry mem =>
    exists_checkExternalCall types.1 fun text textMem =>
      legible.2 text (List.mem_flatMap.2 ⟨entry, mem, textMem⟩)
  exact ⟨_, bind_eq_ok.2 ⟨types, checked, bind_eq_ok.2 ⟨external, externals, rfl⟩⟩⟩

/-- **Validation reports nothing wrong exactly where nothing is.** A file that
holds a document is judged if every text in it that is made of digits and stands
for a number is one. No error is reported exactly if types and methods can be
read, every method belongs to its type and has a number of its own, and all calls
are between the methods that the document lists or lead to methods that can be
read, with counts above zero. -/
theorem validateFile_errors_iff [Platform] {octets : Octets} {value : Json} {doc : Revision}
    (content : Json.ofOctets? .strict octets = some value) (schema : ofJson value = .ok doc)
    (legible : ∀ text ∈ doc.numberTexts, Legible text) :
    ∃ findings, validateFile (.ok octets) = .ok findings ∧
      (findings.errors = [] ↔ SelfConsistent doc) := by
  obtain ⟨findings, judged⟩ := exists_validate legible
  have file : validateFile (.ok octets) = .ok findings := by
    simp only [validateFile, content, schema, judged]
  refine ⟨findings, file, ?_, ?_⟩
  · intro quiet
    obtain ⟨numbers, consistent⟩ := consistent_of_validate judged quiet
    exact consistent.selfConsistent
  · intro consistent
    obtain ⟨numbers, listed⟩ := consistent.exists_numbers fun text mem =>
      legible text (List.mem_append_left _ mem)
    obtain ⟨findings', judged', same⟩ := errors_of_renamed listed.validate
    obtain rfl := Except.ok.inj (judged.symm.trans judged')
    exact same

/-- Two types whose methods have the same number in the digits of two scripts. -/
def twoScripts : Revision where
  forge := forgeName
  product := "g:a"
  version := "1.0"
  generator := generatorName
  depset := []
  cha := ⟨[("/a/T", ⟨⟨[("7", "/a/T.f()%2Fjava.lang%2FVoidType")], by decide⟩, none, none⟩),
    ("/b/U", ⟨⟨[("٧", "/b/U.f()%2Fjava.lang%2FVoidType")], by decide⟩, none, none⟩)], by decide⟩
  internalCalls := [(7, 7)]
  externalCalls := ⟨[("٧,///c/V.f()%2Fjava.lang%2FVoidType",
    ⟨[("invokestatic", "1")], by decide⟩)], by decide⟩
  timestamp := 0

section

open scoped Platform

/-- Only the shared number is wrong, and so the document is refused. -/
theorem validateFile_errors_iff_twoScripts : ¬ SelfConsistent twoScripts ∧ ∃ octets value,
    Json.ofOctets? .strict octets = some value ∧ ofJson value = .ok twoScripts ∧
    (∀ text ∈ twoScripts.numberTexts, Legible text) ∧
    ∃ findings, validateFile (.ok octets) = .ok findings ∧
      (findings.errors = [] ↔ SelfConsistent twoScripts) := by
  have shared : ¬ (twoScripts.idTexts.map fun text => Text.numeral text.toList).Nodup := by
    decide +kernel
  have fits : ∀ i ∈ twoScripts.integers, Json.fitsDocument i = true := by decide
  obtain ⟨text, -, back⟩ := ofOctets?_render fits .compact
    (show ∀ c ∈ ([] : List Char), Json.isSpace c = true by simp)
  obtain ⟨value, content, schema⟩ := Option.map_eq_some_iff.1 back
  have legible : ∀ text ∈ twoScripts.numberTexts, Legible text := by
    have read : ∀ text ∈ twoScripts.numberTexts, (Text.numeral text.toList).isOk = true := by
      decide +kernel
    intro text mem _
    cases numeral : Text.numeral text.toList with
    | ok n => exact ⟨n, rfl⟩
    | error defect =>
      have isNumber := read text mem
      rw [numeral] at isNumber
      cases isNumber
  exact ⟨fun consistent => shared consistent.distinct, _, value, content, schema, legible,
    validateFile_errors_iff content schema legible⟩

end

end CallGraph.Revision
