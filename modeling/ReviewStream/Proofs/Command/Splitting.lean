import ReviewStream.Proofs.Command.Quoting
import ReviewStream.Proofs.Event.Kinds
import ReviewStream.Proofs.Text.Numerals
import ReviewStream.Proofs.Text.Pieces

/-!
# The arguments of a review

A command line is split at white space that is not between double quotes; a backslash between quotes
takes the next character as it is. A review is put together from its parts as one line, and is meant
to be split into them again.

* `Splitter`, `splitArguments`: reading a command line.
* `ReviewCommand.arguments`: what a review is meant to be split into.
* `Splitter.stands_quoteArgument`: a quoted value is one argument, whatever it is.
* `Splitter.isPlain_of_run`: a text that is not quoted is one argument only if it is plain.
* `ReviewCommand.splitArguments_toText_iff`: a review is split into its arguments exactly if its
  labels, which are written without quotes, are plain.
-/

namespace ReviewStream

/-! ## Command lines -/

/-- How far a command line has been read, with what is there of the argument that is being read. -/
inductive Splitter where
  /-- Between two arguments. -/
  | between
  | bare (arg : List Char)
  /-- Behind a quote that is not closed yet. -/
  | quoted (arg : List Char)
  /-- Behind a backslash between quotes. -/
  | escaped (arg : List Char)

namespace Splitter

/-- What has been read of an argument. -/
def arg : Splitter → List Char
  | between => []
  | bare arg | quoted arg | escaped arg => arg

/-- Whether a quote would be the first one of a pair. -/
def IsOpen : Splitter → Prop
  | between | bare _ => True
  | quoted _ | escaped _ => False

/-- Reads one more character, which may end an argument. -/
def next : Splitter → Char → Splitter × Option (List Char)
  | between, c =>
    if c = '"' then (quoted [], none)
    else if Text.isBlank c then (between, none) else (bare [c], none)
  | bare arg, c =>
    if c = '"' then (quoted arg, none)
    else if Text.isBlank c then (between, some arg) else (bare (arg ++ [c]), none)
  | quoted arg, c =>
    if c = '"' then (bare arg, none)
    else if c = '\\' then (escaped arg, none) else (quoted (arg ++ [c]), none)
  | escaped arg, c => (quoted (arg ++ [c]), none)

/-- The arguments in the rest of a command line, which must not end between quotes. -/
def run : Splitter → List Char → Option (List (List Char))
  | between, [] => some []
  | bare arg, [] => some [arg]
  | quoted _, [] | escaped _, [] => none
  | s, c :: rest =>
    match s.next c with
    | (s, none) => s.run rest
    | (s, some arg) => (s.run rest).map (arg :: ·)

end Splitter

/-- The arguments of a command line. -/
def splitArguments (line : String) : Option (List String) :=
  (Splitter.between.run line.toList).map (·.map String.ofList)

/-- Whether a text has neither white space nor quotes. -/
def IsPlain (cs : List Char) : Prop := ∀ c ∈ cs, c ≠ '"' ∧ Text.isBlank c = false

instance (cs : List Char) : Decidable (IsPlain cs) :=
  List.decidableBAll (fun c => c ≠ '"' ∧ Text.isBlank c = false) cs

lemma isPlain_append_iff {front back : List Char} :
    IsPlain (front ++ back) ↔ IsPlain front ∧ IsPlain back := List.forall_mem_append

/-! ## What a review is to be split into -/

/-- A vote as one argument: the label, and the value with its sign. -/
def Vote.argument (v : Vote) : String :=
  v.label ++ "=" ++ (if v.value.toInt < 0 then "-" else "+") ++ toString v.value.toInt.natAbs

/-- The arguments of a review. -/
def ReviewCommand.arguments (r : ReviewCommand) : List String :=
  ["gerrit", "review", toString r.change ++ "," ++ toString r.patchSet]
    ++ r.message.elim [] (fun message => ["--message", message])
    ++ r.votes.flatMap (fun v => ["--label", v.argument])
    ++ r.tag.elim [] fun tag => ["--tag", tag]

namespace Splitter

variable {s : Splitter} {c : Char} {a cs text rest : List Char} {args more : List (List Char)}

lemma run_cons (s : Splitter) (c : Char) (rest : List Char) :
    s.run (c :: rest) = match s.next c with
      | (s, none) => s.run rest
      | (s, some arg) => (s.run rest).map (arg :: ·) := by
  cases s <;> rfl

/-! ## Texts that stand for one argument -/

lemma run_bare_blank (a rest : List Char) :
    (bare a).run (' ' :: rest) = (between.run rest).map (a :: ·) := rfl

/-- Between quotes, a command line is read as a quoted argument is. -/
lemma run_quoted (a cs : List Char) :
    (quoted a).run cs
        = (readToQuote? false cs).bind (fun read => (bare (a ++ read.1)).run read.2)
      ∧ (escaped a).run cs
        = (readToQuote? true cs).bind fun read => (bare (a ++ read.1)).run read.2 := by
  induction cs generalizing a with
  | nil => exact ⟨rfl, rfl⟩
  | cons c cs ih =>
      have htaken : (quoted (a ++ [c])).run cs
          = ((readToQuote? false cs).map fun read => (c :: read.1, read.2)).bind
            fun read => (bare (a ++ read.1)).run read.2 := by
        rw [(ih (a ++ [c])).1, Option.bind_map]
        simp only [Function.comp_def, List.append_assoc, List.singleton_append]
      rw [run_cons, run_cons, next, next, readToQuote?, readToQuote?]
      refine ⟨?_, htaken⟩
      split_ifs with hquote hbackslash
      · exact congrArg (fun a => (bare a).run cs) (List.append_nil a).symm
      · exact (ih a).2
      · exact htaken

/-- A text stands for one argument, which goes on with what is behind it. -/
def Stands (text arg : List Char) : Prop :=
  ∀ rest, between.run (text ++ rest) = (bare arg).run rest

lemma stands_quoteArgument (value : String) : Stands (quoteArgument value).toList value.toList := by
  intro rest
  have hopen (cs : List Char) : between.run ('"' :: cs) = (quoted []).run cs := rfl
  rw [toList_quoteArgument, List.cons_append, hopen, (run_quoted _ _).1, List.append_assoc,
    List.cons_append, List.nil_append, readToQuote?_escapeArgument]
  rfl

lemma run_bare_plain (hplain : IsPlain text) (a rest : List Char) :
    (bare a).run (text ++ rest) = (bare (a ++ text)).run rest := by
  induction text generalizing a with
  | nil => rw [List.nil_append, List.append_nil]
  | cons c text ih =>
      obtain ⟨hquote, hblank⟩ := hplain c List.mem_cons_self
      rw [List.cons_append, run_cons, next, if_neg hquote, if_neg (by rw [hblank]; decide)]
      dsimp only
      rw [ih fun d hd => hplain d (List.mem_cons_of_mem _ hd), List.append_assoc,
        List.singleton_append]

lemma stands_plain (hne : text ≠ []) (hplain : IsPlain text) : Stands text text := by
  intro rest
  cases text with
  | nil => exact absurd rfl hne
  | cons c text =>
      obtain ⟨hquote, hblank⟩ := hplain c List.mem_cons_self
      rw [List.cons_append, run_cons, next, if_neg hquote, if_neg (by rw [hblank]; decide)]
      exact run_bare_plain (fun d hd => hplain d (List.mem_cons_of_mem _ hd)) [c] rest

/-- Behind white space, a text that stands for an argument is the next one. -/
lemma run_bare_stands (h : Stands text cs) (a rest : List Char) :
    (bare a).run (' ' :: (text ++ rest)) = ((bare cs).run rest).map (a :: ·) := by
  rw [run_bare_blank, h rest]

/-! ## Texts that are split into themselves -/

/-- What becomes of one more character. -/
inductive Turn (s : Splitter) (c : Char) : Splitter × Option (List Char) → Prop where
  | ends : Turn s c (between, some s.arg)
  /-- Outside quotes, nothing but a character of a plain text is taken. -/
  | takes {s' : Splitter} (harg : s'.arg = s.arg ++ [c])
      (hplain : s.IsOpen → s'.IsOpen ∧ c ≠ '"' ∧ Text.isBlank c = false) : Turn s c (s', none)
  | drops {s' : Splitter} (harg : s'.arg = s.arg)
      (hc : c = '"' ∨ c = '\\' ∨ Text.isBlank c = true) : Turn s c (s', none)

lemma next_spec (s : Splitter) (c : Char) : Turn s c (s.next c) := by
  cases s with
  | between =>
      rw [next]
      split_ifs with hquote hblank
      · exact .drops rfl (.inl hquote)
      · exact .drops rfl (.inr (.inr hblank))
      · exact .takes rfl fun _ => ⟨trivial, hquote, Bool.not_eq_true _ ▸ hblank⟩
  | bare a =>
      rw [next]
      split_ifs with hquote hblank
      · exact .drops rfl (.inl hquote)
      · exact .ends
      · exact .takes rfl fun _ => ⟨trivial, hquote, Bool.not_eq_true _ ▸ hblank⟩
  | quoted a =>
      rw [next]
      split_ifs with hquote hbackslash
      · exact .drops rfl (.inl hquote)
      · exact .drops rfl (.inr (.inl hbackslash))
      · exact .takes rfl False.elim
  | escaped a => exact .takes rfl False.elim

/-- The next argument begins with what has been read of it. -/
lemma arg_prefix_of_run (h : s.run cs = some (a :: args)) : s.arg <+: a := by
  induction cs generalizing s with
  | nil =>
      cases s with
      | between => cases h
      | bare a =>
          cases h
          exact List.prefix_rfl
      | quoted _ | escaped _ => cases h
  | cons c cs ih =>
      rw [run_cons] at h
      have hturn := next_spec s c
      generalize s.next c = after at h hturn
      cases hturn with
      | ends =>
          obtain ⟨later, -, hresult⟩ := Option.map_eq_some_iff.mp h
          cases hresult
          exact List.prefix_rfl
      | takes harg _ => exact (harg ▸ List.prefix_append s.arg [c]).trans (ih h)
      | drops harg _ => exact harg ▸ ih h

/-- A character that is no delimiter is kept. -/
def Lasts (c : Char) : Prop := c ≠ '"' ∧ c ≠ '\\' ∧ Text.isBlank c = false

/-- An argument that goes on behind a text has all of the text's lasting characters; if it has not
lost any character of the text, the text is plain. -/
lemma arg_of_run_append {x : Char} (hx : Lasts x) (h : s.run (text ++ cs) = some (a :: args)) :
    a.length < s.arg.length + text.length
      ∨ ∃ kept later, a = s.arg ++ kept ++ later ∧ kept.count x = text.count x
        ∧ kept.length ≤ text.length
        ∧ (s.IsOpen → kept.length = text.length → IsPlain text) := by
  induction text generalizing s with
  | nil =>
      obtain ⟨later, hlater⟩ := arg_prefix_of_run h
      refine .inr ⟨[], later, ?_, rfl, Nat.le_refl _, fun _ _ => nofun⟩
      rw [List.append_nil, hlater]
  | cons c text ih =>
      rw [List.cons_append, run_cons] at h
      have hturn := next_spec s c
      generalize s.next c = after at h hturn
      cases hturn with
      | ends =>
          obtain ⟨later, -, hresult⟩ := Option.map_eq_some_iff.mp h
          cases hresult
          exact .inl (Nat.lt_add_of_pos_right (Nat.succ_pos _))
      | @takes s' harg hplain =>
          rcases ih h with hshort | ⟨kept, later, heq, hcount, hle, hall⟩
          · refine .inl ?_
            rw [harg, List.length_append, List.length_singleton] at hshort
            rw [List.length_cons]
            omega
          · refine .inr ⟨c :: kept, later, ?_, ?_, Nat.succ_le_succ hle, fun hopen hlength => ?_⟩
            · rw [heq, harg]
              simp only [List.append_assoc, List.cons_append, List.nil_append]
            · rw [List.count_cons, List.count_cons, hcount]
            · obtain ⟨hopen', hc⟩ := hplain hopen
              have hrest := hall hopen' (Nat.succ.inj hlength)
              intro d hd
              rcases List.mem_cons.mp hd with rfl | hmem
              · exact hc
              · exact hrest d hmem
      | @drops s' harg hc =>
          have hne : c ≠ x := by
            rintro rfl
            rcases hc with hquote | hbackslash | hblank
            · exact hx.1 hquote
            · exact hx.2.1 hbackslash
            · exact absurd hblank (by rw [hx.2.2]; decide)
          rcases ih h with hshort | ⟨kept, later, heq, hcount, hle, -⟩
          · refine .inl ?_
            rw [harg] at hshort
            rw [List.length_cons]
            omega
          · refine .inr ⟨kept, later, by rw [heq, harg], ?_, Nat.le_succ_of_le hle,
              fun _ hlength => ?_⟩
            · rw [hcount, List.count_cons_of_ne hne]
            · rw [List.length_cons] at hlength
              omega

/-- **A text that ends in a lasting character is split into itself only if it is plain.** -/
lemma isPlain_of_run {front : List Char} {x : Char} (hx : Lasts x)
    (h : between.run (front ++ [x] ++ cs) = some ((front ++ [x]) :: args)) :
    IsPlain (front ++ [x]) := by
  rcases arg_of_run_append hx h with hshort | ⟨kept, later, heq, hcount, -, hall⟩
  · rw [arg, List.length_nil, Nat.zero_add] at hshort
    exact absurd hshort (Nat.lt_irrefl _)
  · -- What comes later in the argument has none of the last character, and so nothing at all.
    have hnone : x ∉ later := by
      have htotal : (front ++ [x]).count x = (between.arg ++ kept).count x + later.count x := by
        rw [← List.count_append, ← heq]
      rw [arg, List.nil_append, hcount] at htotal
      exact List.count_eq_zero.mp (by omega)
    have hlater : later = [] := by
      rcases List.eq_nil_or_concat later with hnil | ⟨init, y, rfl⟩
      · exact hnil
      · have hy : x = y := by simpa using congrArg List.getLast? heq
        exact absurd (by simp [hy]) hnone
    refine hall trivial ?_
    rw [heq, hlater, arg, List.nil_append, List.append_nil]

end Splitter

/-! ## Numbers and votes -/

lemma signedText_eq (i : Int) :
    signedText i = (if i < 0 then "-" else "+") ++ toString i.natAbs := by
  rw [signedText]
  cases i with
  | ofNat n =>
      have hnot : ¬ (Int.ofNat n < 0) := Int.not_lt.mpr (Int.natCast_nonneg n)
      rw [if_neg hnot, if_neg hnot]
      rfl
  | negSucc n =>
      rw [if_pos (Int.negSucc_lt_zero n), if_pos (Int.negSucc_lt_zero n)]
      exact String.ofList_cons

/-- The digits of a number last. -/
lemma lasts_of_mem_toString {n : Nat} {c : Char} (h : c ∈ (toString n).toList) :
    Splitter.Lasts c := by
  have hdigit : c.isDigit := Text.isDigit_of_mem_natDigits (n := n) (by
    simpa [toString, Text.natDigits] using h)
  refine ⟨?_, ?_, Text.isBlank_of_isDigit hdigit⟩
  · rintro rfl
    cases hdigit
  · rintro rfl
    cases hdigit

lemma isPlain_toString (n : Nat) : IsPlain (toString n).toList := fun _ hc =>
  ⟨(lasts_of_mem_toString hc).1, (lasts_of_mem_toString hc).2.2⟩

namespace Vote

lemma toText_eq_argument (v : Vote) : v.toText = v.argument := by
  rw [toText, argument, signedText_eq, ← String.append_assoc]

/-- A vote is plain if its label is. -/
lemma isPlain_argument_iff (v : Vote) :
    IsPlain v.argument.toList ↔ IsPlain v.label.toList := by
  have hsign : IsPlain (if v.value.toInt < 0 then "-" else "+").toList := by
    split_ifs <;> decide
  rw [argument, String.toList_append, String.toList_append, String.toList_append,
    isPlain_append_iff, isPlain_append_iff, isPlain_append_iff]
  exact ⟨fun h => h.1.1.1, fun h => ⟨⟨⟨h, by decide⟩, hsign⟩, isPlain_toString _⟩⟩

/-- A vote ends in a digit. -/
lemma exists_last (v : Vote) :
    ∃ front x, v.argument.toList = front ++ [x] ∧ Splitter.Lasts x := by
  rcases List.eq_nil_or_concat (toString v.value.toInt.natAbs).toList with hnil | ⟨init, x, hx⟩
  · exact absurd hnil (by simp [toString])
  · rw [List.concat_eq_append] at hx
    have hmem : x ∈ (toString v.value.toInt.natAbs).toList :=
      hx.symm ▸ List.mem_append_right init (List.mem_singleton_self x)
    refine ⟨(v.label ++ "=" ++ if v.value.toInt < 0 then "-" else "+").toList ++ init, x, ?_,
      lasts_of_mem_toString hmem⟩
    rw [argument, String.toList_append, hx, List.append_assoc]

end Vote

/-! ## Reviews -/

namespace Splitter

variable {a cs rest : List Char} {args later : List (List Char)}

lemma map_cons_eq_some_iff {o : Option (List (List Char))} :
    o.map (a :: ·) = some (a :: args) ↔ o = some args := by
  cases o <;> simp

/-- Behind white space, a vote is the next argument if and only if it is plain. -/
lemma run_bare_vote_iff (v : Vote) (a rest : List Char) :
    (bare a).run (' ' :: (v.argument.toList ++ rest)) = some (a :: v.argument.toList :: args)
      ↔ IsPlain v.argument.toList
        ∧ (bare v.argument.toList).run rest = some (v.argument.toList :: args) := by
  obtain ⟨front, x, htext, hx⟩ := v.exists_last
  rw [run_bare_blank, map_cons_eq_some_iff, htext]
  constructor
  · intro h
    have hplain := isPlain_of_run hx h
    rw [stands_plain (by simp) hplain rest] at h
    exact ⟨hplain, h⟩
  · rintro ⟨hplain, h⟩
    rw [stands_plain (by simp) hplain rest, h]

/-- An option with a quoted argument is read as two arguments. -/
lemma run_option (name : String) (hname : IsPlain ("--" ++ name).toList) (value : String)
    (a rest : List Char) :
    (bare a).run ((ReviewCommand.optionText name (some value)).toList ++ rest)
      = (((bare value.toList).run rest).map (("--" ++ name).toList :: ·)).map (a :: ·) := by
  have htext : (ReviewCommand.optionText name (some value)).toList ++ rest
      = ' ' :: (("--" ++ name).toList ++ ' ' :: ((quoteArgument value).toList ++ rest)) := by
    simp [ReviewCommand.optionText]
  rw [htext, run_bare_stands (stands_plain (by simp) hname),
    run_bare_stands (stands_quoteArgument value)]

/-- The votes of a review are read as two arguments each if and only if their labels are plain,
whatever stands in front of them. -/
lemma run_votes_iff (votes : List Vote) (hrest : ∀ a, (bare a).run rest = some (a :: later))
    (a : List Char) :
    (bare a).run ((String.join (votes.map fun v => " --label " ++ v.toText)).toList ++ rest)
        = some (a :: (votes.flatMap (fun v => ["--label".toList, v.argument.toList]) ++ later))
      ↔ ∀ v ∈ votes, IsPlain v.label.toList := by
  induction votes generalizing a with
  | nil => exact iff_of_true (hrest a) nofun
  | cons v votes ih =>
      have htext : (String.join ((v :: votes).map fun v => " --label " ++ v.toText)).toList ++ rest
          = ' ' :: ("--label".toList ++ ' ' :: (v.argument.toList
            ++ ((String.join (votes.map fun v => " --label " ++ v.toText)).toList ++ rest))) := by
        rw [List.map_cons, String.join_cons, v.toText_eq_argument]
        simp
      rw [htext, run_bare_stands (stands_plain (by decide) (by decide)), List.flatMap_cons,
        List.append_assoc, map_cons_eq_some_iff, List.cons_append, List.cons_append,
        List.nil_append, run_bare_vote_iff, v.isPlain_argument_iff, ih, List.forall_mem_cons]

end Splitter

lemma splitArguments_eq_some_iff {line : String} {arguments : List String} :
    splitArguments line = some arguments
      ↔ Splitter.between.run line.toList = some (arguments.map String.toList) := by
  rw [splitArguments, Option.map_eq_some_iff]
  constructor
  · rintro ⟨args, hargs, rfl⟩
    rw [hargs, List.map_map]
    simp [Function.comp_def]
  · intro h
    refine ⟨_, h, ?_⟩
    rw [List.map_map]
    simp [Function.comp_def]

namespace ReviewCommand

open Splitter

/-- The tag ends the command, and its argument. -/
lemma run_tag (tag : Option String) (a : List Char) :
    (bare a).run (optionText "tag" tag).toList
      = some (a :: tag.elim [] fun tag => ["--tag".toList, tag.toList]) := by
  cases tag with
  | none => rfl
  | some tag =>
      have hread := run_option "tag" (by decide) tag a []
      rw [List.append_nil] at hread
      rw [hread]
      rfl

lemma isPlain_numbers (r : ReviewCommand) :
    IsPlain (toString r.change ++ "," ++ toString r.patchSet).toList := by
  rw [String.toList_append, String.toList_append, isPlain_append_iff, isPlain_append_iff]
  exact ⟨⟨isPlain_toString r.change.toNat, by decide⟩, isPlain_toString r.patchSet.toNat⟩

/-- A review is split into its arguments if and only if its labels are plain. -/
lemma splitArguments_toText (r : ReviewCommand) :
    splitArguments r.toText = some r.arguments ↔ ∀ v ∈ r.votes, IsPlain v.label.toList := by
  have hnumber (n : UInt64) : Text.natText n.toNat = toString n := rfl
  have htext : r.toText.toList
      = "gerrit".toList ++ ' ' :: ("review".toList ++ ' ' ::
        ((toString r.change ++ "," ++ toString r.patchSet).toList
          ++ ((optionText "message" r.message).toList
            ++ ((String.join (r.votes.map fun v => " --label " ++ v.toText)).toList
              ++ (optionText "tag" r.tag).toList)))) := by
    have hwords : "gerrit review ".toList
        = "gerrit".toList ++ ' ' :: ("review".toList ++ [' ']) := by decide
    unfold ReviewCommand.toText
    simp only [hnumber, hwords, String.toList_append, List.append_assoc, List.cons_append,
      List.nil_append]
  have hargs : r.arguments.map String.toList
      = "gerrit".toList :: "review".toList
        :: (toString r.change ++ "," ++ toString r.patchSet).toList
        :: (r.message.elim [] (fun message => ["--message".toList, message.toList])
          ++ (r.votes.flatMap (fun v => ["--label".toList, v.argument.toList])
            ++ r.tag.elim [] fun tag => ["--tag".toList, tag.toList])) := by
    rw [arguments]
    cases r.message <;> cases r.tag <;> simp [List.map_flatMap]
  have hgerrit : Stands "gerrit".toList "gerrit".toList := stands_plain (by decide) (by decide)
  have hreview : Stands "review".toList "review".toList := stands_plain (by decide) (by decide)
  have hnumbers := stands_plain (by simp) r.isPlain_numbers
  rw [splitArguments_eq_some_iff, htext, hargs, hgerrit, run_bare_stands hreview,
    map_cons_eq_some_iff, run_bare_stands hnumbers, map_cons_eq_some_iff]
  cases r.message with
  | none => exact run_votes_iff r.votes (run_tag r.tag) _
  | some message =>
      rw [run_option "message" (by decide)]
      exact map_cons_eq_some_iff.trans (map_cons_eq_some_iff.trans
        (run_votes_iff r.votes (run_tag r.tag) _))

end ReviewCommand

/-! ## Votes as they are given -/

/-- The label of a vote is what is given before the first equals sign. -/
lemma Vote.label_of_read? {text : String} {v : Vote} (h : Vote.read? text = .ok v) :
    v.label.toList = Text.before '=' text.toList := by
  rw [Vote.read?] at h
  cases hcut : Text.cutAt '=' text.toList with
  | none =>
      rw [hcut] at h
      cases h
  | some parts =>
      rw [hcut] at h
      dsimp only at h
      cases hvalue : Text.readSigned Int32.maxValue.toInt.toNat
          (parts.2.dropWhile (· == '+')) with
      | error fault =>
          rw [hvalue] at h
          cases h
      | ok i =>
          rw [hvalue] at h
          cases h
          exact String.toList_ofList.trans (Text.eq_before_of_cutAt hcut)

lemma Vote.forall_isPlain_iff {texts : List String} {votes : List Vote}
    (h : texts.mapM Vote.read? = .ok votes) :
    (∀ v ∈ votes, IsPlain v.label.toList)
      ↔ ∀ text ∈ texts, IsPlain (Text.before '=' text.toList) := by
  induction texts generalizing votes with
  | nil =>
      cases h
      exact iff_of_true nofun nofun
  | cons text texts ih =>
      rw [List.mapM_cons] at h
      obtain ⟨v, hv, hrest⟩ := exists_of_bind_eq_ok h
      obtain ⟨later, hlater, hresult⟩ := exists_of_bind_eq_ok hrest
      cases hresult
      rw [List.forall_mem_cons, List.forall_mem_cons, ih hlater, Vote.label_of_read? hv]

/-- **A review is split into exactly its arguments if and only if the labels that are given have
neither white space nor quotes.**  Messages and tags are quoted, so that they stay one argument
whatever they are, but labels are not. -/
theorem ReviewCommand.splitArguments_toText_iff {texts : List String} {votes : List Vote}
    (hread : texts.mapM Vote.read? = .ok votes) (change patchSet : UInt64)
    (message tag : Option String) :
    let r : ReviewCommand := { change, patchSet, message, votes, tag }
    splitArguments r.toText = some r.arguments
      ↔ ∀ text ∈ texts, IsPlain (Text.before '=' text.toList) := by
  intro r
  exact r.splitArguments_toText.trans (Vote.forall_isPlain_iff hread)

/-- A message with quotes, a backslash at its end and an option inside, two votes, and a tag with a
blank. -/
theorem ReviewCommand.splitArguments_toText_of_two_votes :
    let texts := ["Verified=-1", "Code-Review=++2"]
    let votes : List Vote := [⟨"Verified", -1⟩, ⟨"Code-Review", 2⟩]
    let r : ReviewCommand := ⟨4711, 2, some "\"ok\" --submit \\", votes, some "bot run"⟩
    (texts.mapM Vote.read? = .ok votes ∧ ∀ text ∈ texts, IsPlain (Text.before '=' text.toList))
      ∧ splitArguments r.toText = some ["gerrit", "review", "4711,2", "--message",
        "\"ok\" --submit \\", "--label", "Verified=-1", "--label", "Code-Review=+2", "--tag",
        "bot run"] := by
  intro texts votes r
  have hread : texts.mapM Vote.read? = .ok votes := by rfl
  have hplain : ∀ text ∈ texts, IsPlain (Text.before '=' text.toList) := by decide
  have hargs : r.arguments = ["gerrit", "review", "4711,2", "--message", "\"ok\" --submit \\",
      "--label", "Verified=-1", "--label", "Code-Review=+2", "--tag", "bot run"] := by decide
  have hsplit := (ReviewCommand.splitArguments_toText_iff hread 4711 2
    (some "\"ok\" --submit \\") (some "bot run")).mpr hplain
  exact ⟨⟨hread, hplain⟩, hsplit.trans (congrArg some hargs)⟩

/-- **A label with a blank becomes two arguments.** -/
theorem ReviewCommand.splitArguments_toText_of_blank_label :
    let votes : List Vote := [⟨"Needs Work", 1⟩]
    let r : ReviewCommand := ⟨4711, 2, none, votes, none⟩
    ["Needs Work=1"].mapM Vote.read? = .ok votes
      ∧ r.arguments = ["gerrit", "review", "4711,2", "--label", "Needs Work=+1"]
      ∧ splitArguments r.toText
        = some ["gerrit", "review", "4711,2", "--label", "Needs", "Work=+1"] := by
  intro votes r
  exact ⟨rfl, by decide, by decide⟩

end ReviewStream
