import EngineHost.CommandLine.Request
import Mathlib.Data.List.Forall2
import Mathlib.Data.String.Basic

/-!
# Assignments on the command line

An assignment is written as a name and a value with an equals sign between them. The name ends at
the first equals sign, so it has none, and it is not empty; the value is any text. All other texts
are refused, for one of two reasons. On a command line, each argument that is an assignment adds one
to the request.

## Main definitions

- `Assigns` — a text, and the name and the value that it is made of
- `Parsed` — the texts of arguments, and what they are read as

## Main statements

- `Assignment.parse_eq_ok_iff`, `Assignment.parse_eq_error_iff` — the texts that are read as
  assignments, and those that are not
- `AssignmentError.message_injective` — what a refusal tells
- `assignments_are_read_back` — reading against writing
- `ofArguments_options` — the request that a line of assignments makes
-/

namespace EngineHost.CommandLine

/-! ## Assignments -/

/-- A text is a name and a value with an equals sign between them; the name is not empty and has no
equals sign. -/
def Assigns (text name value : String) : Prop :=
  text = name ++ "=" ++ value ∧ name ≠ "" ∧ '=' ∉ name.toList

theorem assigns_iff {text name value : String} :
    Assigns text name value ↔
      splitAtEquals text.toList = some (name.toList, value.toList) ∧ name ≠ "" := by
  have htext : text = name ++ "=" ++ value ↔ text.toList = name.toList ++ '=' :: value.toList := by
    rw [← String.toList_inj, String.toList_append, String.toList_append, List.append_assoc]
    rfl
  rw [Assigns, htext, splitAtEquals_eq_some_iff, and_assoc, and_comm (a := name ≠ "")]

theorem Assignment.parse_eq_ok_iff {text name value : String} :
    Assignment.parse text = .ok (name, value) ↔ Assigns text name value := by
  have hname : name ≠ "" ↔ name.toList ≠ [] := String.toList_eq_nil_iff.not.symm
  rw [assigns_iff, hname]
  unfold Assignment.parse
  cases hsplit : splitAtEquals text.toList with
  | none => simp
  | some parts =>
    obtain ⟨before, behind⟩ := parts
    cases before with
    | nil =>
      simp only [reduceCtorEq, Option.some.injEq, Prod.mk.injEq, false_iff]
      rintro ⟨⟨hbefore, -⟩, hne⟩
      exact hne hbefore.symm
    | cons c cs =>
      simp only [Except.ok.injEq, Option.some.injEq, Prod.mk.injEq, String.ofList_eq]
      constructor
      · rintro ⟨hbefore, hbehind⟩
        exact ⟨⟨hbefore, hbehind⟩, hbefore ▸ List.cons_ne_nil c cs⟩
      · exact And.left

/-- An argument that is read assigns one value to one name. -/
theorem assigns_iff_of_parse {text name value : String} {o : Assignment}
    (h : Assignment.parse text = .ok o) : Assigns text name value ↔ o = (name, value) := by
  rw [← Assignment.parse_eq_ok_iff, h, Except.ok.injEq]

/-! ## Texts that are no assignments -/

/-- What the first equals sign of a text decides: there is none, or it stands in front, or there is
a name before it. -/
theorem not_mem_or_exists_assigns (text : String) :
    '=' ∉ text.toList ∨ (∃ value, text = "=" ++ value) ∨ ∃ name value, Assigns text name value := by
  cases hsplit : splitAtEquals text.toList with
  | none => exact .inl (splitAtEquals_eq_none_iff.1 hsplit)
  | some parts =>
    obtain ⟨before, behind⟩ := parts
    cases before with
    | nil =>
      obtain ⟨htext, -⟩ := splitAtEquals_eq_some_iff.1 hsplit
      refine .inr (.inl ⟨String.ofList behind, ?_⟩)
      rw [← String.toList_inj, htext, String.toList_append, String.toList_ofList,
        String.toList_ofList]
      rfl
    | cons c cs =>
      refine .inr (.inr ⟨String.ofList (c :: cs), String.ofList behind, assigns_iff.2 ⟨?_, ?_⟩⟩)
      · rw [String.toList_ofList, String.toList_ofList, hsplit]
      · rw [ne_eq, ← String.toList_eq_nil_iff, String.toList_ofList]
        exact List.cons_ne_nil c cs

theorem Assignment.parse_of_not_mem {text : String} (h : '=' ∉ text.toList) :
    Assignment.parse text = .error (.noEquals text) := by
  rw [Assignment.parse, splitAtEquals_eq_none_iff.2 h]

theorem Assignment.parse_equals_append (value : String) :
    Assignment.parse ("=" ++ value) = .error (.noName ("=" ++ value)) := by
  have hsplit : splitAtEquals ("=" ++ value).toList = some ([], value.toList) :=
    splitAtEquals_eq_some_iff.2 ⟨String.toList_append, List.not_mem_nil⟩
  rw [Assignment.parse, hsplit]

theorem Assignment.parse_eq_error_iff {text : String} {e : AssignmentError} :
    Assignment.parse text = .error e ↔
      '=' ∉ text.toList ∧ e = .noEquals text ∨
        (∃ value, text = "=" ++ value) ∧ e = .noName text := by
  constructor
  · intro h
    rcases not_mem_or_exists_assigns text with hnone | ⟨value, rfl⟩ | ⟨name, value, hassigns⟩
    · cases (Assignment.parse_of_not_mem hnone).symm.trans h
      exact .inl ⟨hnone, rfl⟩
    · cases (Assignment.parse_equals_append value).symm.trans h
      exact .inr ⟨⟨value, rfl⟩, rfl⟩
    · cases (Assignment.parse_eq_ok_iff.2 hassigns).symm.trans h
  · rintro (⟨hnone, rfl⟩ | ⟨⟨value, rfl⟩, rfl⟩)
    · exact Assignment.parse_of_not_mem hnone
    · exact Assignment.parse_equals_append value

theorem AssignmentError.message_noEquals (text : String) :
    (noEquals text).message = "expected NAME=VALUE, got '" ++ text ++ "'" := rfl

theorem AssignmentError.message_noName (text : String) :
    (noName text).message = "missing option name in '" ++ text ++ "'" := rfl

theorem AssignmentError.message_noEquals_ne (text other : String) :
    (noEquals text).message ≠ (noName other).message := by
  have hexpected : "expected NAME=VALUE, got '".toList.head? = some 'e' := by decide +kernel
  have hmissing : "missing option name in '".toList.head? = some 'm' := by decide +kernel
  intro h
  have hhead := congrArg (fun m : String => m.toList.head?) h
  simp only [message_noEquals, message_noName, String.toList_append, List.head?_append, hexpected,
    hmissing, Option.some_or] at hhead
  cases hhead

/-- The wording tells the two causes apart and has the text in it. -/
theorem AssignmentError.message_injective : Function.Injective AssignmentError.message := by
  intro e e' h
  cases e with
  | noEquals text =>
    cases e' with
    | noEquals other =>
      rw [message_noEquals, message_noEquals, String.append_left_inj, String.append_right_inj] at h
      rw [h]
    | noName other => exact absurd h (message_noEquals_ne text other)
  | noName text =>
    cases e' with
    | noEquals other => exact absurd h.symm (message_noEquals_ne other text)
    | noName other =>
      rw [message_noName, message_noName, String.append_left_inj, String.append_right_inj] at h
      rw [h]

/-- **Reading undoes writing.** A name and any value, written with an equals sign between them, are
read as they are if and only if the name is not empty and has no equals sign of its own. Nothing
else is read as this name and this value. A text that is refused has no equals sign or begins with
one; which of the two it is, and the whole text, can be told from the message. -/
theorem assignments_are_read_back :
    (∀ name value, Assignment.parse (name ++ "=" ++ value) = .ok (name, value) ↔
        name ≠ "" ∧ '=' ∉ name.toList) ∧
      (∀ text name value, Assignment.parse text = .ok (name, value) ↔
        text = name ++ "=" ++ value ∧ name ≠ "" ∧ '=' ∉ name.toList) ∧
      (∀ text e, Assignment.parse text = .error e ↔
        '=' ∉ text.toList ∧ e = .noEquals text ∨
          (∃ value, text = "=" ++ value) ∧ e = .noName text) ∧
      (∀ text,
        (AssignmentError.noEquals text).message = "expected NAME=VALUE, got '" ++ text ++ "'" ∧
          (AssignmentError.noName text).message = "missing option name in '" ++ text ++ "'") ∧
      Function.Injective AssignmentError.message := by
  refine ⟨fun name value => ?_, fun text name value => ?_, fun text e => ?_, fun text => ?_,
    AssignmentError.message_injective⟩
  · rw [Assignment.parse_eq_ok_iff, Assigns, and_iff_right rfl]
  · rw [Assignment.parse_eq_ok_iff, Assigns]
  · exact Assignment.parse_eq_error_iff
  · exact ⟨AssignmentError.message_noEquals text, AssignmentError.message_noName text⟩

/-- Blanks stay, and only the first equals sign counts. -/
example : Assignment.parse " né = b=" = .ok (" né ", " b=") := by rfl

/-! ## Arguments on a command line -/

/-- The texts of arguments, and the assignments that they are read as. -/
def Parsed (texts : List String) (options : List Assignment) : Prop :=
  List.Forall₂ (fun text o => Assignment.parse text = .ok o) texts options

theorem ofText_option (text : String) :
    Argument.ofText ("--option=" ++ text) = .long "option" (some text) := by
  have htext : ("--option=" ++ text).toList =
      '-' :: '-' :: 'o' :: ("ption=".toList ++ text.toList) := String.toList_append
  have hsplit : splitAtEquals ('o' :: ("ption=".toList ++ text.toList)) =
      some ("option".toList, text.toList) := by
    rw [splitAtEquals_eq_some_iff]
    exact ⟨rfl, by decide⟩
  simp only [Argument.ofText, htext, hsplit, String.ofList_toList]

/-- An argument that is an assignment puts it behind the ones before. -/
theorem readRun_option {text : String} {o : Assignment} (h : Assignment.parse text = .ok o)
    (r : RunRequest) (json : Bool) (rest : List String) :
    readRun r json .nothing (("--option=" ++ text) :: rest) =
      readRun { r with options := r.options ++ [o] } json .nothing rest := by
  have haccept : r.accept .option text = .ok { r with options := r.options ++ [o] } := by
    rw [RunRequest.accept, h]
    rfl
  have hflag : Flag.ofName? "option" = none := rfl
  have hoption : (RunOption.all.find? fun o => o.name == "option") = some .option := rfl
  simp only [readRun, ofText_option, hflag, hoption, Waiting.settle, haccept]

/-- Arguments that are assignments are the options of the request, in this order. -/
theorem readRun_options {texts : List String} {options : List Assignment}
    (h : Parsed texts options) (r : RunRequest) (json : Bool) :
    readRun r json .nothing (texts.map ("--option=" ++ ·)) =
      .ok (.run { r with options := r.options ++ options }) := by
  induction h generalizing r with
  | nil =>
    rw [List.append_nil]
    rfl
  | cons hread _ ih =>
    rw [List.map_cons, readRun_option hread, ih, List.append_assoc]
    rfl

theorem ofArguments_options {path : Option String} (hpath : path ≠ some "") {texts : List String}
    {options : List Assignment} (h : Parsed texts options) :
    Request.ofArguments path ("run" :: texts.map ("--option=" ++ ·)) =
      .ok (.run { config := path, options }) := by
  have hline : readLine false ("run" :: texts.map ("--option=" ++ ·)) = .ok (.run { options }) :=
    readRun_options h {} false
  rw [Request.ofArguments, hline]
  cases path with
  | none => rfl
  | some path =>
    have hnonempty : path ≠ "" := fun heq => hpath (congrArg some heq)
    show (RunRequest.accept { options } .config path).map Request.run = _
    rw [RunRequest.accept, if_neg hnonempty]
    rfl

end EngineHost.CommandLine
