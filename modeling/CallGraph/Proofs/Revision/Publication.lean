import CallGraph.Proofs.FileTree.Attempt
import CallGraph.Revision.Publication

/-! Publishing a document is all or nothing: either its file and its line are
there in the end, as far as they are asked for, or no file has changed and
nothing has been said. The file comes first, but a document that can be written
to a file can be written as a line as well. -/
namespace CallGraph.Revision
open Listing Attempt FileTree

variable {doc : Revision} {dir : FilePath} {dir? : Option FilePath} {toOutput : Bool}
  {before after : Workspace} {e : PublishError}

/-! Attempts at files. -/

section

variable {ε : Type} {attempt : Attempt ε FileTree Unit} {name : ε → PublishError}
  {operation : FileTree → Except ε FileTree} {u : Unit}

theorem onFiles_eq_ok : (onFiles attempt).adaptExcept name before = .ok u after ↔
    attempt before.files = .ok () after.files ∧ after.output = before.output := by
  rw [adaptExcept_eq_ok]
  unfold onFiles
  obtain ⟨files, output⟩ := after
  cases attempt before.files <;> simp [eq_comm]

theorem onFiles_eq_error : (onFiles attempt).adaptExcept name before = .error e after ↔
    (∃ refusal, attempt before.files = .error refusal after.files ∧ name refusal = e) ∧
      after.output = before.output := by
  rw [adaptExcept_eq_error]
  unfold onFiles
  obtain ⟨files, output⟩ := after
  cases attempt before.files with
  | ok _ _ => simp
  | error refusal left =>
    simp only [EStateM.Result.error.injEq, Workspace.mk.injEq]
    constructor
    · rintro ⟨_, ⟨rfl, rfl, rfl⟩, rfl⟩
      exact ⟨⟨refusal, ⟨rfl, rfl⟩, rfl⟩, rfl⟩
    · rintro ⟨⟨_, ⟨rfl, rfl⟩, rfl⟩, rfl⟩
      exact ⟨refusal, ⟨rfl, rfl, rfl⟩, rfl⟩

theorem onFiles_whole_eq_error :
    (onFiles (.whole operation)).adaptExcept name before = .error e after ↔
      ∃ refusal, operation before.files = .error refusal ∧ name refusal = e ∧ before = after := by
  rw [onFiles_eq_error]
  obtain ⟨files, output⟩ := before
  obtain ⟨files', output'⟩ := after
  simp only [whole_eq_error, Workspace.mk.injEq]
  constructor
  · rintro ⟨⟨refusal, ⟨refused, rfl⟩, named⟩, rfl⟩
    exact ⟨refusal, refused, named, rfl, rfl⟩
  · rintro ⟨refusal, refused, named, rfl, rfl⟩
    exact ⟨⟨refusal, ⟨refused, rfl⟩, named⟩, rfl⟩

end

/-! What attempts leave. -/

/-- Whether a document can be written does not depend on the layout. -/
theorem exists_render {layout : Json.Layout} {text : String}
    (written : doc.render layout = .ok text) (other : Json.Layout) :
    ∃ text, doc.render other = .ok text := by
  unfold render at written ⊢
  split at written
  · cases written
  · exact ⟨_, rfl⟩

theorem fileContents_eq_ok {contents : Octets} :
    doc.fileContents = .ok contents ↔
      ∃ text, doc.render .indented = .ok text ∧ contents = Text.encodeUtf8 text.toList := by
  rw [fileContents, Listing.bind_eq_ok]
  simp [pure, Except.pure, eq_comm]

theorem line_eq_ok {line : String} :
    doc.line = .ok line ↔ ∃ text, doc.render .compact = .ok text ∧ line = text ++ "\n" := by
  rw [Revision.line, Listing.bind_eq_ok]
  simp [pure, Except.pure, eq_comm]

/-- The document has its file, if there is a directory for it, and its line, if
that is asked for. -/
structure Published (doc : Revision) (dir? : Option FilePath) (toOutput : Bool)
    (before after : Workspace) : Prop where
  file : ∀ dir, dir? = some dir → ∃ text, doc.render .indented = .ok text ∧
    OneFile before.files (doc.pathIn dir) (Text.encodeUtf8 text.toList) after.files
  noFile : dir? = none → after.files = before.files
  line : toOutput = true → ∃ text, doc.render .compact = .ok text ∧
    after.output = before.output ++ text ++ "\n"
  noLine : toOutput = false → after.output = before.output

/-- At most directories have been made. -/
structure Untouched (before after : Workspace) : Prop where
  files : OnlyDirectories before.files after.files
  output : after.output = before.output

theorem printLine_eq_ok (done : doc.printLine before = .ok () after) :
    ∃ text, doc.render .compact = .ok text ∧
      after = ⟨before.files, before.output ++ text ++ "\n"⟩ := by
  obtain ⟨line, _, step, done⟩ := Attempt.bind_eq_ok.1 done
  obtain ⟨composed, rfl⟩ := ofExcept_eq_ok.1 step
  obtain ⟨text, rendered, rfl⟩ := line_eq_ok.1 (mapError_eq_ok.1 composed)
  cases done
  refine ⟨text, rendered, ?_⟩
  rw [String.append_assoc]

theorem printLine_eq_error : doc.printLine before = .error e after ↔
    ∃ large, doc.line = .error large ∧ before = after ∧ e = .integer large := by
  rw [printLine, Attempt.bind_eq_error, ofExcept_eq_error, mapError_eq_error]
  constructor
  · rintro (⟨⟨large, unwritable, rfl⟩, rfl⟩ | ⟨_, _, -, done⟩)
    · exact ⟨large, unwritable, rfl, rfl⟩
    · cases done
  · rintro ⟨large, unwritable, rfl, rfl⟩
    exact .inl ⟨⟨large, unwritable, rfl⟩, rfl⟩

/-- The contents cannot be composed, or the file cannot be written. -/
theorem writeContents_eq_error {path : FilePath} :
    (do
      let contents ← .ofExcept (doc.fileContents.mapError .integer)
      (onFiles (.whole (·.write path contents))).adaptExcept .file
      : Attempt PublishError Workspace Unit) before = .error e after ↔
    before = after ∧ ((∃ large, doc.fileContents = .error large ∧ .integer large = e) ∨
      ∃ contents refusal, doc.fileContents = .ok contents ∧
        after.files.write path contents = .error refusal ∧ .file refusal = e) := by
  simp only [Attempt.bind_eq_error, onFiles_whole_eq_error, ofExcept_eq_error, ofExcept_eq_ok,
    mapError_eq_error, mapError_eq_ok]
  constructor
  · rintro (⟨large, rfl⟩ | ⟨contents, _, ⟨composed, rfl⟩, refusal, refused, named, rfl⟩)
    · exact ⟨rfl, .inl large⟩
    · exact ⟨rfl, .inr ⟨contents, refusal, composed, refused, named⟩⟩
  · rintro ⟨rfl, large | ⟨contents, refusal, composed, refused, named⟩⟩
    · exact .inl ⟨large, rfl⟩
    · exact .inr ⟨contents, _, ⟨composed, rfl⟩, refusal, refused, named, rfl⟩

section

variable [Platform]

/-- A file is written as a whole, after its contents are there. -/
theorem writeFile_eq_ok : doc.writeFile dir before = .ok () after ↔
    ∃ made contents, establish dir before.files = .ok () made ∧
      doc.fileContents = .ok contents ∧ made.write (doc.pathIn dir) contents = .ok after.files ∧
      after.output = before.output := by
  simp only [writeFile, Attempt.bind_eq_ok, onFiles_eq_ok, whole_eq_ok, ofExcept_eq_ok,
    mapError_eq_ok]
  constructor
  · rintro ⟨_, made, ⟨established, first⟩, contents, _, ⟨composed, rfl⟩, written, second⟩
    exact ⟨made.files, contents, established, composed, written, second.trans first⟩
  · rintro ⟨made, contents, established, composed, written, same⟩
    exact ⟨(), ⟨made, before.output⟩, ⟨established, rfl⟩, contents, _, ⟨composed, rfl⟩, written,
      same⟩

/-- The directory cannot be had, or what follows is refused. -/
theorem writeFile_eq_error : doc.writeFile dir before = .error e after ↔
    after.output = before.output ∧
    ((∃ refusal, establish dir before.files = .error refusal after.files ∧
        .directory refusal = e) ∨
      establish dir before.files = .ok () after.files ∧
        ((∃ large, doc.fileContents = .error large ∧ .integer large = e) ∨
          ∃ contents refusal, doc.fileContents = .ok contents ∧
            after.files.write (doc.pathIn dir) contents = .error refusal ∧ .file refusal = e)) := by
  rw [writeFile, Attempt.bind_eq_error, onFiles_eq_error]
  simp only [onFiles_eq_ok, writeContents_eq_error]
  constructor
  · rintro (⟨refused, same⟩ | ⟨_, made, ⟨established, same⟩, rfl, rest⟩)
    · exact ⟨same, .inl refused⟩
    · exact ⟨same, .inr ⟨established, rest⟩⟩
  · rintro ⟨same, refused | ⟨established, rest⟩⟩
    · exact .inl ⟨refused, same⟩
    · exact .inr ⟨(), after, ⟨established, same⟩, rfl, rest⟩

theorem writeFile_published (done : doc.writeFile dir before = .ok () after) :
    (∃ text, doc.render .indented = .ok text ∧
      OneFile before.files (doc.pathIn dir) (Text.encodeUtf8 text.toList) after.files) ∧
    after.output = before.output := by
  obtain ⟨made, contents, established, composed, written, same⟩ := writeFile_eq_ok.1 done
  obtain ⟨text, rendered, rfl⟩ := fileContents_eq_ok.1 composed
  have only : OnlyDirectories before.files made :=
    (onlyDirectories_establish dir).of_ok established
  exact ⟨⟨text, rendered, oneFile_write only written⟩, same⟩

theorem writeFile_untouched (refused : doc.writeFile dir before = .error e after) :
    Untouched before after := by
  obtain ⟨same, ⟨_, refused, -⟩ | ⟨established, -⟩⟩ := writeFile_eq_error.1 refused
  · exact ⟨(onlyDirectories_establish dir).of_error refused, same⟩
  · exact ⟨(onlyDirectories_establish dir).of_ok established, same⟩

theorem publish_some : doc.publish (some dir) toOutput =
    (doc.writeFile dir >>= fun _ => doc.publish none toOutput) := rfl

theorem publish_eq_ok (done : doc.publish dir? toOutput before = .ok () after) :
    Published doc dir? toOutput before after := by
  obtain ⟨_, between, filed, printed⟩ := Attempt.bind_eq_ok.1 done
  have file : ∀ dir, dir? = some dir → (∃ text, doc.render .indented = .ok text ∧
      OneFile before.files (doc.pathIn dir) (Text.encodeUtf8 text.toList) between.files) ∧
      between.output = before.output := by
    rintro dir rfl
    exact writeFile_published filed
  have noFile : dir? = none → between = before := by
    rintro rfl
    cases filed
    rfl
  have silent : between.output = before.output := by
    cases dir? with
    | none => rw [noFile rfl]
    | some dir => exact (file dir rfl).2
  cases toOutput with
  | false =>
    cases printed
    exact ⟨fun dir here => (file dir here).1, fun none => by rw [noFile none], nofun,
      fun _ => silent⟩
  | true =>
    obtain ⟨text, rendered, rfl⟩ := printLine_eq_ok printed
    exact ⟨fun dir here => (file dir here).1, fun none => by rw [noFile none],
      fun _ => ⟨text, rendered, by rw [silent]⟩, nofun⟩

theorem publish_untouched (refused : doc.publish dir? toOutput before = .error e after) :
    Untouched before after := by
  rcases Attempt.bind_eq_error.1 refused with unfiled | ⟨_, between, filed, unprinted⟩
  · cases dir? with
    | none => cases unfiled
    | some dir => exact writeFile_untouched unfiled
  · cases toOutput with
    | false => cases unprinted
    | true =>
      obtain ⟨large, unwritable, rfl, -⟩ := printLine_eq_error.1 unprinted
      cases dir? with
      | none =>
        cases filed
        exact ⟨.refl _, rfl⟩
      | some dir =>
        -- The file has been written, so the line can be written as well.
        obtain ⟨⟨_, rendered, -⟩, -⟩ := writeFile_published filed
        obtain ⟨text, rendered⟩ := exists_render rendered .compact
        cases unwritable.symm.trans (line_eq_ok.2 ⟨text, rendered, rfl⟩)

end

end CallGraph.Revision
