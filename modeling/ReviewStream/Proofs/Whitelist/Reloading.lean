import Mathlib.Data.Finset.Card
import Mathlib.Data.List.Basic
import Mathlib.Data.List.Dedup
import Mathlib.Data.Set.List
import Mathlib.Tactic.Lemma
import Mathlib.Tactic.SplitIfs
import ReviewStream.LineBuffer.Basic
import ReviewStream.Proofs.Text.Pieces
import ReviewStream.Proofs.Text.WellFormed
import ReviewStream.Whitelist.Shared

/-!
# What a reload does

A whitelist file names a project in each of its lines up to the first empty one.  Nothing behind
that line matters.  A reload puts these projects into use if all of the lines are well-formed, and
else changes nothing.

* `Whitelist.IsLines`: the lines of a file.
* `Whitelist.readNames?_eq_some_iff`: names are read exactly when the lines up to the first empty
  one are their octets.
* `SharedWhitelist.whitelist?_after`: snapshots keep their contents.
* **`WhitelistHandle.reload_outcome`**: what a reload does, for every file.
-/

namespace ReviewStream

open Text (Octet)

namespace Whitelist

variable {content line rest : List Octet} {lines : List (List Octet)} {names : List String}

/-! ## Lines -/

/-- The octet that may stand before the end of a line. -/
abbrev carriageReturn : Octet := 13

/-- The lines of a file: each ends at a line feed, and a carriage return before that is no part of
it; what is left at the end is a line unless it is empty, with all of its octets. -/
inductive IsLines : List Octet → List (List Octet) → Prop where
  | nil : IsLines [] []
  | unended {line : List Octet} (hne : line ≠ []) (hfeed : lineFeed ∉ line) : IsLines line [line]
  | feed {line rest : List Octet} {lines : List (List Octet)} (hfeed : lineFeed ∉ line)
      (hreturn : line.getLast? ≠ some carriageReturn) (hrest : IsLines rest lines) :
      IsLines (line ++ lineFeed :: rest) (line :: lines)
  | returnFeed {line rest : List Octet} {lines : List (List Octet)} (hfeed : lineFeed ∉ line)
      (hrest : IsLines rest lines) :
      IsLines (line ++ carriageReturn :: lineFeed :: rest) (line :: lines)

lemma rawLines_eq_pieces (bs : List Octet) :
    rawLines bs = (Text.endedPieces lineFeed bs).map rawLines.dropReturn
      ++ if (Text.openPiece lineFeed bs).isEmpty then [] else [Text.openPiece lineFeed bs] := by
  rw [rawLines, Text.splitAll_eq_splitOn, Text.openPiece_eq_getLastD, Text.endedPieces]
  rfl

lemma rawLines_of_notMem (hne : line ≠ []) (hfeed : lineFeed ∉ line) : rawLines line = [line] := by
  rw [rawLines_eq_pieces, Text.endedPieces_of_notMem hfeed, Text.openPiece_of_notMem hfeed]
  simp [hne]

/-- The first line is cut off at the first line feed. -/
lemma rawLines_append (hfeed : lineFeed ∉ line) (rest : List Octet) :
    rawLines (line ++ lineFeed :: rest) = rawLines.dropReturn line :: rawLines rest := by
  rw [rawLines_eq_pieces, rawLines_eq_pieces rest, Text.endedPieces_append_cons hfeed,
    Text.openPiece_append_cons, List.map_cons, List.cons_append]

/-- A file has these lines and no others. -/
lemma isLines_iff : IsLines content lines ↔ rawLines content = lines := by
  constructor
  · intro h
    induction h with
    | nil => rfl
    | unended hne hfeed => exact rawLines_of_notMem hne hfeed
    | feed hfeed hreturn _ ih =>
        rw [rawLines_append hfeed, rawLines.dropReturn, if_neg hreturn, ih]
    | @returnFeed line rest lines hfeed _ ih =>
        have hboth : lineFeed ∉ line ++ [carriageReturn] := by simpa using ⟨hfeed, by decide⟩
        have hdrop : rawLines.dropReturn (line ++ [carriageReturn]) = line := by
          simp [rawLines.dropReturn]
        rw [List.append_cons, rawLines_append hboth, hdrop, ih]
  · rintro rfl
    induction hlength : content.length using Nat.strongRecOn generalizing content with
    | ind n ih =>
        by_cases hfeed : lineFeed ∈ content
        · obtain ⟨line, rest, rfl, hline⟩ := List.eq_append_cons_of_mem hfeed
          have hrest := ih rest.length (by simp at hlength; omega) rfl
          rw [rawLines_append hline, rawLines.dropReturn]
          split_ifs with hreturn
          · obtain ⟨front, rfl⟩ := List.getLast?_eq_some_iff.mp hreturn
            rw [List.dropLast_concat, List.append_assoc]
            exact .returnFeed (fun hmem => hline (by simp [hmem])) hrest
          · exact .feed hline hreturn hrest
        · cases content with
          | nil => exact .nil
          | cons b bs =>
              rw [rawLines_of_notMem (List.cons_ne_nil b bs) hfeed]
              exact .unended (List.cons_ne_nil b bs) hfeed

/-- What ends with a line feed is cut into lines by itself. -/
lemma rawLines_append_of_ended {front : List Octet}
    (hfront : front = [] ∨ front.getLast? = some lineFeed) (rest : List Octet) :
    rawLines (front ++ rest) = rawLines front ++ rawLines rest := by
  induction hlength : front.length using Nat.strongRecOn generalizing front with
  | ind n ih =>
      rcases hfront with rfl | hlast
      · rfl
      · obtain ⟨line, more, rfl, hline⟩ := List.eq_append_cons_of_mem (List.mem_of_getLast? hlast)
        have hmore : more = [] ∨ more.getLast? = some lineFeed := by
          rw [List.getLast?_append_cons, List.getLast?_cons] at hlast
          cases hlast' : more.getLast? with
          | none => exact .inl (List.getLast?_eq_none_iff.mp hlast')
          | some b =>
              rw [hlast'] at hlast
              exact .inr hlast
        rw [List.append_assoc, List.cons_append, rawLines_append hline, rawLines_append hline,
          ih more.length (by simp at hlength; omega) hmore rfl, List.cons_append]

/-! ## Names -/

/-- The octets of a name. -/
def octets (name : String) : List Octet := Text.encode name.toList

lemma octets_injective : Function.Injective octets := fun _ _ h =>
  String.toList_inj.mp (Text.encode_injective h)

lemma decode?_octets (name : String) : Text.decode? (octets name) = some name.toList :=
  Text.decode?_encode name.toList

/-- Nothing behind the first empty line is looked at. -/
lemma readNames?_takeWhile (lines : List (List Octet)) :
    readNames? (lines.takeWhile (· ≠ [])) = readNames? lines := by
  induction lines with
  | nil => rfl
  | cons line rest ih =>
      cases line with
      | nil => rfl
      | cons b bs =>
          rw [List.takeWhile_cons_of_pos (by simp), readNames?, readNames?, ih]
          · simp
          · simp

/-- **Names are read exactly when the lines up to the first empty one are their octets.** -/
theorem readNames?_eq_some_iff :
    readNames? lines = some names ↔ lines.takeWhile (· ≠ []) = names.map octets := by
  induction lines generalizing names with
  | nil => cases names <;> simp [readNames?]
  | cons line rest ih =>
      cases line with
      | nil => cases names <;> simp [readNames?]
      | cons b bs =>
          rw [List.takeWhile_cons_of_pos (by simp), readNames?.eq_3 _ _ (by simp)]
          constructor
          · intro h
            cases hdecode : Text.decode? (b :: bs) with
            | none =>
                rw [hdecode] at h
                cases h
            | some cs =>
                rw [hdecode] at h
                obtain ⟨others, hothers, rfl⟩ := Option.map_eq_some_iff.mp h
                rw [List.map_cons, ih.mp hothers, octets, String.toList_ofList,
                  Text.decode?_eq_some_iff.mp hdecode]
          · intro h
            obtain ⟨name, others, rfl, hname, hothers⟩ := List.map_eq_cons_iff.mp h.symm
            have hread : readNames? rest = some others := ih.mpr hothers.symm
            simp only [← hname, decode?_octets, hread, Option.map_some, String.ofList_toList]

/-! ## Sets of names -/

lemma mem_eraseDups {name : String} : name ∈ names.eraseDups ↔ name ∈ names := by
  induction hlength : names.length using Nat.strongRecOn generalizing names with
  | ind n ih =>
      cases names with
      | nil => rfl
      | cons first rest =>
          have hle := List.length_filter_le (fun b => !b == first) rest
          rw [List.eraseDups_cons, List.mem_cons, ih _ (by simp at hlength; omega) rfl]
          by_cases hname : name = first <;> simp [hname]

lemma nodup_eraseDups (names : List String) : names.eraseDups.Nodup := by
  induction hlength : names.length using Nat.strongRecOn generalizing names with
  | ind n ih =>
      cases names with
      | nil => exact .nil
      | cons first rest =>
          have hle := List.length_filter_le (fun b => !b == first) rest
          rw [List.eraseDups_cons, List.nodup_cons, mem_eraseDups]
          exact ⟨by simp, ih _ (by simp at hlength; omega) _ rfl⟩

/-- A set of names has as many members as there are different octets. -/
lemma size_ofList (names : List String) :
    (ofList names).size = (names.map octets).toFinset.card := by
  have hsame : names.eraseDups.toFinset = names.toFinset := by
    ext name
    rw [List.mem_toFinset, List.mem_toFinset, mem_eraseDups]
  rw [size, ofList, ← List.toFinset_card_of_nodup (nodup_eraseDups names), hsame,
    List.card_toFinset, List.card_toFinset, List.dedup_map_of_injective octets_injective,
    List.length_map]

lemma admits_ofList {project : String} :
    (ofList names).admits project = true ↔ names = [] ∨ project ∈ names := by
  have hnil : names.eraseDups = [] ↔ names = [] := by
    simp only [List.eq_nil_iff_forall_not_mem, mem_eraseDups]
  rw [admits, ofList, Bool.or_eq_true, List.isEmpty_iff, hnil, List.contains_iff_mem, mem_eraseDups]

end Whitelist

/-! ## Snapshots -/

namespace SharedWhitelist

/-- What was made stays as it is. -/
lemma made_isPrefix_act (s : SharedWhitelist) (a : Act) : s.made <+: (s.act a).made := by
  cases a with
  | replace w => exact List.prefix_append _ _
  | reload file =>
      rw [act, reload]
      split
      · exact List.prefix_append _ _
      · exact List.prefix_refl _

lemma made_isPrefix_after (s : SharedWhitelist) (acts : List Act) :
    s.made <+: (s.after acts).made := by
  induction acts generalizing s with
  | nil => exact List.prefix_refl _
  | cons a rest ih => exact (s.made_isPrefix_act a).trans (ih (s.act a))

lemma handle_replace (s : SharedWhitelist) (w : Whitelist) : (s.replace w).handle = ⟨w⟩ := by
  simp [handle, replace]

/-- A handle that is shared does what a handle of one's own does. -/
lemma handle_act (s : SharedWhitelist) (a : Act) : (s.act a).handle = s.handle.act a := by
  cases a with
  | replace w => exact s.handle_replace w
  | reload file =>
      rw [act, reload, WhitelistHandle.act, WhitelistHandle.reload]
      cases Whitelist.ofFile? file with
      | ok w => exact s.handle_replace w
      | error e => rfl

lemma handle_after (s : SharedWhitelist) (acts : List Act) :
    (s.after acts).handle = acts.foldl WhitelistHandle.act s.handle := by
  induction acts generalizing s with
  | nil => rfl
  | cons a rest ih => rw [List.foldl_cons, ← handle_act, ← ih, after, after, List.foldl_cons]

/-- **A snapshot keeps its contents**, which are those of the whitelist that was in use when it was
taken. -/
theorem whitelist?_after (s : SharedWhitelist) (later : List Act) :
    (s.after later).whitelist? s.snapshot = some s.handle.snapshot := by
  obtain ⟨more, hmore⟩ := s.made_isPrefix_after later
  rw [whitelist?, snapshot, ← hmore, List.getElem?_append_left s.current_lt,
    List.getElem?_eq_getElem s.current_lt, handle, List.get_eq_getElem]

end SharedWhitelist

/-! ## Reloads -/

namespace WhitelistHandle

open Whitelist

variable {content : List Octet} {names : List String}

lemma reload_of_names (h : WhitelistHandle) (hnames : readNames? (rawLines content) = some names) :
    h.reload (some content) = (.ok (ofList names).size, ⟨ofList names⟩) := by
  simp only [reload, ofFile?, ofOctets?, hnames, replace]

lemma reload_of_ill_formed (h : WhitelistHandle) (hnone : readNames? (rawLines content) = none) :
    h.reload (some content) = (.error .invalidData, h) := by
  simp only [reload, ofFile?, ofOctets?, hnone]

/-- What a reload does whose file has these lines up to the first empty one. -/
structure Follows (h : WhitelistHandle) (content : List Octet) (named : List (List Octet)) :
    Prop where
  of_wellFormed : (∀ line ∈ named, ∃ cs, line = Text.encode cs) →
    (h.reload (some content)).1 = .ok named.toFinset.card ∧
      (h.reload (some content)).2.snapshot.size = named.toFinset.card ∧
      ∀ project, (h.reload (some content)).2.admits project = true ↔
        named = [] ∨ Text.encode project.toList ∈ named
  of_illFormed : (∃ line ∈ named, ∀ cs, line ≠ Text.encode cs) →
    h.reload (some content) = (.error .invalidData, h)

lemma follows_rawLines (h : WhitelistHandle) (content : List Octet) :
    h.Follows content ((rawLines content).takeWhile (· ≠ [])) := by
  constructor
  · intro hvalid
    have hrange : (rawLines content).takeWhile (· ≠ []) ∈ Set.range (List.map octets) := by
      rw [Set.range_list_map]
      intro line hline
      obtain ⟨cs, rfl⟩ := hvalid line hline
      exact ⟨String.ofList cs, by rw [octets, String.toList_ofList]⟩
    obtain ⟨names, hnames⟩ := hrange
    have hsize : (ofList names).size = ((rawLines content).takeWhile (· ≠ [])).toFinset.card := by
      rw [size_ofList, hnames]
    rw [h.reload_of_names (readNames?_eq_some_iff.mpr hnames.symm)]
    refine ⟨congrArg _ hsize, hsize, fun project => ?_⟩
    have hmem : Text.encode project.toList ∈ names.map octets ↔ project ∈ names :=
      List.mem_map_of_injective octets_injective
    rw [admits, admits_ofList, ← hnames, List.map_eq_nil_iff, hmem]
  · rintro ⟨line, hline, hill⟩
    refine h.reload_of_ill_formed (Option.eq_none_iff_forall_ne_some.mpr fun names hnames => ?_)
    rw [readNames?_eq_some_iff.mp hnames] at hline
    obtain ⟨name, -, rfl⟩ := List.mem_map.mp hline
    exact hill name.toList rfl

/-- What stands behind an empty line has no influence. -/
lemma reload_append_congr (h : WhitelistHandle) {front blank : List Octet}
    (hfront : front = [] ∨ front.getLast? = some lineFeed)
    (hblank : blank = [lineFeed] ∨ blank = [carriageReturn, lineFeed]) (rest rest' : List Octet) :
    h.reload (some (front ++ blank ++ rest)) = h.reload (some (front ++ blank ++ rest')) := by
  have hread (rest : List Octet) : readNames? (rawLines (front ++ blank ++ rest)) =
      readNames? (rawLines front ++ [[]]) := by
    have hempty : rawLines (blank ++ rest) = [] :: rawLines rest := by
      rcases hblank with rfl | rfl
      · exact rawLines_append (by simp : lineFeed ∉ ([] : List Octet)) rest
      · exact rawLines_append (by decide : lineFeed ∉ [carriageReturn]) rest
    rw [List.append_assoc, rawLines_append_of_ended hfront, hempty, ← readNames?_takeWhile,
      ← readNames?_takeWhile (_ ++ [[]]), List.takeWhile_append, List.takeWhile_append]
    rfl
  simp only [reload, ofFile?, ofOctets?, hread]

/-- **What a reload does, for every file.**  If the lines up to the first empty one are well-formed,
their number without repetitions is reported, and from then on exactly they are admitted, or every
project if there are none.  If one of them is not, or if there is no file, nothing changes.  What
stands behind the empty line has no influence.  Whoever took a snapshot earlier keeps what was in
use then, whatever happens later. -/
theorem reload_outcome (h : WhitelistHandle) :
    (∀ content, ∃ lines, IsLines content lines ∧
      (∀ others, IsLines content others → others = lines) ∧
      h.Follows content (lines.takeWhile (· ≠ []))) ∧
    h.reload none = (.error .notFound, h) ∧
    (∀ front blank rest rest', front = [] ∨ front.getLast? = some lineFeed →
      blank = [lineFeed] ∨ blank = [carriageReturn, lineFeed] →
        h.reload (some (front ++ blank ++ rest)) = h.reload (some (front ++ blank ++ rest'))) ∧
    ∀ (s : SharedWhitelist) (earlier later : List SharedWhitelist.Act), s.handle = h →
      ((s.after earlier).after later).whitelist? (s.after earlier).snapshot =
        some (earlier.foldl act h).snapshot := by
  refine ⟨fun content => ?_, rfl, fun front blank rest rest' hfront hblank => ?_, ?_⟩
  · refine ⟨rawLines content, isLines_iff.mpr rfl, fun others hothers => ?_, ?_⟩
    · exact (isLines_iff.mp hothers).symm
    · exact h.follows_rawLines content
  · exact h.reload_append_congr hfront hblank rest rest'
  · rintro s earlier later rfl
    rw [SharedWhitelist.whitelist?_after, SharedWhitelist.handle_after]

/-- A file names the projects `a`, `b` and once more `a`, with ends of lines of both kinds; behind
its empty line there are octets that are no text.  It replaces what was in use; a snapshot of that,
taken in between, keeps it.  In another file the octets that are no text are in the second line,
and nothing changes. -/
theorem reload_outcome_of_repeated_name :
    let old : Whitelist := ⟨["old"]⟩
    let named : List Octet := [97, 13, 10, 98, 10, 97, 10]
    let h : WhitelistHandle := ⟨old⟩
    let file : List Octet := named ++ [13, 10] ++ [0xFF, 10]
    let broken : List Octet := [98, 10, 0xC3, 10]
    let taken := (SharedWhitelist.ofWhitelist .empty).after [.replace old]
    (h.reload (some file)).1 = .ok 2 ∧ (h.reload (some file)).2.admits "b" = true ∧
      (h.reload (some file)).2.admits "old" = false ∧
      h.reload (some file) = h.reload (some (named ++ [13, 10] ++ [])) ∧
      h.reload (some broken) = (.error .invalidData, h) ∧
      (taken.after [.reload (some file)]).whitelist? taken.snapshot = some old := by
  intro old named h file broken taken
  obtain ⟨hfile, -, hbehind, -⟩ := reload_outcome h
  obtain ⟨lines, hlines, -, hfollows⟩ := hfile file
  obtain rfl : [[97], [98], [97], [], [0xFF]] = lines := isLines_iff.mp hlines
  obtain ⟨hcount, -, hadmits⟩ := hfollows.of_wellFormed <| by
    change ∀ line ∈ [[97], [98], [97]], ∃ cs, line = Text.encode cs
    simp only [List.forall_mem_cons]
    exact ⟨⟨['a'], rfl⟩, ⟨['b'], rfl⟩, ⟨['a'], rfl⟩, nofun⟩
  obtain ⟨lines, hlines, -, hfollows'⟩ := hfile broken
  obtain rfl : [[98], [0xC3]] = lines := isLines_iff.mp hlines
  have hill : ∀ cs, [0xC3] ≠ Text.encode cs := fun cs h => by
    have hread := Text.decode?_eq_some_iff.mpr h
    cases hread
  refine ⟨hcount, (hadmits "b").mpr (.inr (by decide)), ?_, hbehind _ _ _ _ (.inr rfl) (.inr rfl),
    hfollows'.of_illFormed ⟨[0xC3], by decide, hill⟩, ?_⟩
  · rw [Bool.eq_false_iff, ne_eq, hadmits]
    decide
  · exact (reload_outcome ⟨.empty⟩).2.2.2 (.ofWhitelist .empty) [.replace old] [.reload (some file)]
      rfl

end WhitelistHandle

end ReviewStream
