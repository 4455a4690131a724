import ReviewStream.Dispatch.Work
import ReviewStream.Proofs.Event.Project
import ReviewStream.Proofs.Text.Pieces

/-!
# The whitelist and the event

Lines and payloads are held against the whitelist before they are decoded, by a scan that looks for
a word and not for a key.  It finds the project of the event that is decoded later when the first
colon behind the first occurrence of the word is the one before that project.

* `WorkItem.LeadsTo`: the scan comes to the text from which the event takes its project.
* **`WorkItem.passes_iff_of_leadsTo`**: then the whitelist decides on the event's own project.
* **`WorkItem.not_passes_of_nested`**: a project that is an object is not understood.
  `WorkItem.not_passes_of_stray_word`, `WorkItem.not_passes_of_missing_colon` and
  `WorkItem.not_passes_of_escape`: what else leads the scan astray.
-/

namespace ReviewStream

open Json (Reading)

/-! ## What the scan finds -/

lemma quotedProject_cons {c : Char} {value : List Char} (hquote : c ≠ '"') (hslash : c ≠ '/')
    (hend : '"' ∈ value) : quotedProject (c :: value) = c :: quotedProject value := by
  obtain ⟨inside, after, rfl, hinside⟩ := List.eq_append_cons_of_mem hend
  have hall : '"' ∉ c :: inside := by simp [hinside, Ne.symm hquote]
  have hcut : Text.cutAt '"' (c :: (inside ++ '"' :: after)) = some (c :: inside, after) :=
    Text.cutAt_append_sep hall after
  rw [quotedProject, quotedProject, hcut, Text.cutAt_append_sep hinside]
  simp [Text.before, hslash]

lemma quotedProject_slash (value : List Char) : quotedProject ('/' :: value) = [] := by
  rw [quotedProject, Text.cutAt, if_neg (by decide)]
  cases Text.cutAt '"' value <;> rfl

/-- What is quoted without an escape is what the string reads as, up to its first slash. -/
lemma quotedProject_eq_before {value s rest : List Char}
    (h : Json.readString value = some (s, rest)) (hplain : '\\' ∉ quotedProject value) :
    quotedProject value = Text.before '/' s := by
  induction value generalizing s with
  | nil => cases h
  | cons c value ih =>
      by_cases hquote : c = '"'
      · subst hquote
        cases h
        rfl
      have hend : '"' ∈ value := by
        have hmem : '"' ∈ c :: value := (Json.readString_suffix h).subset List.mem_cons_self
        exact (List.mem_cons.mp hmem).resolve_left (Ne.symm hquote)
      by_cases hescape : c = '\\'
      · subst hescape
        rw [quotedProject_cons (by decide) (by decide) hend] at hplain
        exact absurd List.mem_cons_self hplain
      rw [Json.readString_cons hquote hescape] at h
      split_ifs at h
      obtain ⟨⟨later, after⟩, hlater, hresult⟩ := Option.map_eq_some_iff.mp h
      cases hresult
      by_cases hslash : c = '/'
      · subst hslash
        exact quotedProject_slash value
      · rw [quotedProject_cons hquote hslash hend] at hplain ⊢
        rw [ih hlater (fun hmem => hplain (List.mem_cons_of_mem _ hmem))]
        simp [Text.before, hslash]

lemma fromColon_append {gap : List Char} (hgap : ':' ∉ gap) (whole rest : List Char) :
    fromColon whole (gap ++ ':' :: rest) = rest := by
  rw [fromColon, Text.cutAt_append_sep hgap]

/-- The scan goes to the first quotes behind the first colon behind the word. -/
lemma scanProjectChars_eq_quotedProject {data gap blanks value : List Char}
    (hword : Text.afterPiece? projectMarker data = some (gap ++ ':' :: (blanks ++ '"' :: value)))
    (hgap : ':' ∉ gap) (hblanks : '"' ∉ blanks) :
    scanProjectChars data = quotedProject value := by
  rw [scanProjectChars, hword]
  simp only [fromColon_append hgap, Text.cutAt_append_sep hblanks]

/-- A text that is read begins with a quote behind blanks. -/
lemma exists_quote_of_readValue {depth : Nat} {place after : List Char} {name : String}
    (h : Json.readValue depth place = some (.text name, after)) :
    ∃ blanks value rest, place = blanks ++ '"' :: value ∧ '"' ∉ blanks
      ∧ Json.readString value = some (name.toList, rest) := by
  cases depth with
  | zero => cases h
  | succ depth =>
      unfold Json.readValue at h
      split at h
      case h_4 value hopen =>
        obtain ⟨⟨s, rest⟩, hs, hresult⟩ := Option.map_eq_some_iff.mp h
        cases hresult
        refine ⟨place.takeWhile Json.isSpace, value, after, ?_, ?_, by simpa using hs⟩
        · rw [← hopen, Json.skip, List.takeWhile_append_dropWhile]
        · intro hmem
          exact absurd (List.mem_takeWhile_imp hmem) (by decide)
      case h_5 | h_6 =>
        split_ifs at h
        split at h
        next => cases h
        next =>
          obtain ⟨_, -, hresult⟩ := Option.map_eq_some_iff.mp h
          cases hresult
      case h_7 =>
        obtain ⟨_, -, hresult⟩ := Option.map_eq_some_iff.mp h
        cases hresult
      all_goals cases h

/-- A text that is written begins with a quote. -/
lemma exists_quote_of_write {place after : List Char} {name : String}
    (h : place = (Json.text name).write ++ after) :
    ∃ blanks value rest, place = blanks ++ '"' :: value ∧ '"' ∉ blanks
      ∧ Json.readString value = some (name.toList, rest) := by
  refine ⟨[], name.toList.flatMap Json.escape ++ '"' :: after, after, ?_, List.not_mem_nil,
    Json.readString_flatMap_escape _ _⟩
  rw [h, Json.write, Json.quoted]
  simp

/-! ## Items and their events -/

namespace WorkItem

/-- The text that the scan goes through. -/
def source : WorkItem → List Char
  | .line text _ => text.toList
  | .payload value _ => value.write
  | .event _ => []

/-- The value at the end of a path in an item, and the text from that value on. -/
def locate? (path : List String) : WorkItem → Option (Json × List Char)
  | .line text _ => Json.locateRead? Json.depthLimit path text.toList
  | .payload value _ => Json.locateWritten? path value []
  | .event _ => none

/-- The scan of an item comes to the text from which the event takes its project, or it finds
nothing and the event has no project. -/
inductive LeadsTo (item : WorkItem) (e : Event) : Prop
  /-- The word does not occur. -/
  | nowhere (hword : Text.afterPiece? projectMarker item.source = none)
      (hproject : e.project? = none)
  /-- Nothing is quoted behind the first colon behind the word. -/
  | silent (gap rest : List Char)
      (hword : Text.afterPiece? projectMarker item.source = some (gap ++ ':' :: rest))
      (hgap : ':' ∉ gap) (hrest : '"' ∉ rest) (hproject : e.project? = none)
  /-- The first colon behind the word is the one before the project, which is a string and has no
  escape before its first slash. -/
  | there (gap place : List Char) (name : String)
      (hword : Text.afterPiece? projectMarker item.source = some (gap ++ ':' :: place))
      (hgap : ':' ∉ gap)
      (hplace : item.locate? e.kind.projectPath = some (.text name, place))
      (hplain : '\\' ∉ scanProjectChars item.source)

variable {item : WorkItem} {e : Event}

lemma eq_ok_of_ofExcept {x : Except DecodeError Event} (h : Decoded.ofExcept x = .event e) :
    x = .ok e := by
  cases x with
  | ok read =>
      cases h
      rfl
  | error _ => cases h

/-- A line that is decoded is one value. -/
lemma exists_of_decode_line {text : String} {provider : Option Provider}
    (h : (line text provider).decode .json = .event e) :
    ∃ v rest, Json.readValue Json.depthLimit text.toList = some (v, rest)
      ∧ Event.ofJson? provider v = .ok e := by
  have hline : Event.ofLine? provider text = .ok e := eq_ok_of_ofExcept h
  rw [Event.ofLine?, Json.read?, Json.readChars?] at hline
  split at hline
  next => cases hline
  next v hread =>
    split at hread
    next => cases hread
    next rest hvalue =>
      split_ifs at hread
      cases hread
      exact ⟨v, rest, hvalue, hline⟩

/-- Where an item has the text from which its event takes its project, there begins a string that is
read as the event's project. -/
lemma exists_quote_of_locate? {name : String} {place : List Char}
    (hdecode : item.decode .json = .event e)
    (hplace : item.locate? e.kind.projectPath = some (.text name, place)) :
    e.project? = some name ∧ ∃ blanks value rest, place = blanks ++ '"' :: value ∧ '"' ∉ blanks
      ∧ Json.readString value = some (name.toList, rest) := by
  cases item with
  | line text provider =>
      obtain ⟨v, rest, hread, hevent⟩ := exists_of_decode_line hdecode
      obtain ⟨hat, ⟨depth, after, hthere⟩, -⟩ := Json.at?_of_locateRead? hread hplace
      exact ⟨Event.project?_of_ofJson? hevent hat, exists_quote_of_readValue hthere⟩
  | payload value provider =>
      have hevent : Event.ofJson? provider value = .ok e := eq_ok_of_ofExcept hdecode
      obtain ⟨hat, ⟨after, hthere⟩, -⟩ := Json.at?_of_locateWritten? hplace
      exact ⟨Event.project?_of_ofJson? hevent hat, exists_quote_of_write hthere⟩
  | event _ => cases hplace

/-- **The scan finds the project** of the event, up to its first slash, if it is led to it. -/
theorem scanProjectChars_eq_of_leadsTo (hdecode : item.decode .json = .event e)
    (hscan : item.LeadsTo e) :
    scanProjectChars item.source = Text.before '/' (e.project?.getD "").toList := by
  cases hscan with
  | nowhere hword hproject =>
      rw [scanProjectChars, hword, hproject]
      rfl
  | silent gap rest hword hgap hrest hproject =>
      rw [scanProjectChars, hword, hproject]
      simp only [fromColon_append hgap, Text.cutAt_of_notMem hrest]
      rfl
  | there gap place name hword hgap hplace hplain =>
      obtain ⟨hproject, blanks, value, rest, rfl, hblanks, hvalue⟩ :=
        exists_quote_of_locate? hdecode hplace
      rw [scanProjectChars_eq_quotedProject hword hgap hblanks] at hplain ⊢
      rw [hproject, quotedProject_eq_before hvalue hplain]
      rfl

/-- **The whitelist decides on the event's own project.**  A line or a payload that is decoded
passes the whitelist exactly when the whitelist is empty or lists the project of its event up to the
first slash, which is the empty text if the event has none.

This holds as far as the scan is led to the project: as the scan looks for a word and a colon, other
texts may stand in its way. -/
theorem passes_iff_of_leadsTo (w : Whitelist) (hdecode : item.decode .json = .event e)
    (hundecoded : item ≠ .event e) (hscan : item.LeadsTo e) :
    item.passes w = true ↔ w.projects = []
      ∨ String.ofList (Text.before '/' (e.project?.getD "").toList) ∈ w.projects := by
  rw [← scanProjectChars_eq_of_leadsTo hdecode hscan]
  have hadmits (project : String) :
      w.admits project = true ↔ w.projects = [] ∨ project ∈ w.projects := by
    simp [Whitelist.admits]
  cases item with
  | line text provider =>
      have hnonempty : text.isEmpty = false := by
        rw [String.isEmpty_eq_false_iff]
        rintro rfl
        cases hdecode
      rw [passes, hnonempty, Bool.not_false, Bool.true_and, hadmits, scanProject, source]
  | payload value provider =>
      rw [passes, hadmits, scanProject, source, Json.toText, String.toList_ofList]
  | event read =>
      cases hdecode
      exact absurd rfl hundecoded

/-- A change of a project with two parts to its name, whose branch has the word in its name. -/
theorem passes_iff_of_merged_change :
    let change : Change :=
      { project := "tools/build", branch := "project-x", id := "", number := 0, subject := "",
        owner := none, url := none, topic := none, status := none }
    let e : Event := ⟨none, none, .changed .merged ⟨change, none, none⟩⟩
    let text := "\x7b\"type\":\"change-merged\",\"change\":"
      ++ "\x7b\"branch\":\"project-x\",\"project\":\"tools/build\"\x7d\x7d"
    let item : WorkItem := .line text none
    item.decode .json = .event e ∧ item ≠ .event e ∧ item.LeadsTo e
      ∧ item.passes ⟨["tools"]⟩ = true ∧ item.passes ⟨["build"]⟩ = false := by
  intro change e text item
  have hdecode : item.decode .json = .event e := by decide +kernel
  have hundecoded : item ≠ .event e := nofun
  have hscan : item.LeadsTo e :=
    .there "-x\",\"project\"".toList "\"tools/build\"\x7d\x7d".toList "tools/build"
      (by decide +kernel) (by decide +kernel) (by decide +kernel) (by decide +kernel)
  have hpasses (w : Whitelist) := passes_iff_of_leadsTo w hdecode hundecoded hscan
  refine ⟨hdecode, hundecoded, hscan, (hpasses _).mpr (by decide +kernel), ?_⟩
  rw [Bool.eq_false_iff, ne_eq, hpasses]
  decide +kernel

/-- **A project that is an object is not understood.**  The event belongs to the project that the
object names, but the scan takes the key of that name for the project. -/
theorem not_passes_of_nested :
    let project : Json := .object [("name", .text "tools"), ("parent", .text "base")]
    let payload : Json := .object [("project", project), ("type", .text "mirror-done")]
    let e : Event := ⟨none, none, .other "mirror-done" payload⟩
    let text := "\x7b\"type\":\"mirror-done\","
      ++ "\"project\":\x7b\"name\":\"tools\",\"parent\":\"base\"\x7d\x7d"
    let item : WorkItem := .line text none
    item.decode .json = .event e ∧ e.project? = some "tools"
      ∧ item.passes ⟨["tools"]⟩ = false ∧ item.passes ⟨["name"]⟩ = true := by
  decide +kernel

/-- **A stray word counts as the key.**  The branch has the word in its name, so that the scan takes
the subject behind it for the project. -/
theorem not_passes_of_stray_word :
    let change : Change :=
      { project := "tools", branch := "project-x", id := "", number := 0, subject := "Fix",
        owner := none, url := none, topic := none, status := none }
    let e : Event := ⟨none, none, .changed .merged ⟨change, none, none⟩⟩
    let text := "\x7b\"type\":\"change-merged\",\"change\":"
      ++ "\x7b\"branch\":\"project-x\",\"subject\":\"Fix\",\"project\":\"tools\"\x7d\x7d"
    let item : WorkItem := .line text none
    item.decode .json = .event e ∧ e.project? = some "tools"
      ∧ item.passes ⟨["tools"]⟩ = false ∧ item.passes ⟨["Fix"]⟩ = true := by
  decide +kernel

/-- **A word without a colon behind it** sends the scan back to the beginning of the text, where it
finds the first key.  The event has no project. -/
theorem not_passes_of_missing_colon :
    let payload : Json := .object [("by", .text "project"), ("type", .text "mirror-done")]
    let e : Event := ⟨none, none, .other "mirror-done" payload⟩
    let item : WorkItem := .line "\x7b\"type\":\"mirror-done\",\"by\":\"project\"\x7d" none
    item.decode .json = .event e ∧ e.project? = none
      ∧ item.passes ⟨[""]⟩ = false ∧ item.passes ⟨["type"]⟩ = true := by
  decide +kernel

/-- **Escapes are not read.**  The scan finds the literal as it is spelled. -/
theorem not_passes_of_escape :
    let payload : Json := .object [("project", .text "tools"), ("type", .text "mirror-done")]
    let e : Event := ⟨none, none, .other "mirror-done" payload⟩
    let text := "\x7b\"type\":\"mirror-done\",\"project\":\"tool\\u0073\"\x7d"
    let item : WorkItem := .line text none
    item.decode .json = .event e ∧ e.project? = some "tools"
      ∧ item.passes ⟨["tools"]⟩ = false ∧ item.passes ⟨["tool\\u0073"]⟩ = true := by
  decide +kernel

end WorkItem

end ReviewStream
