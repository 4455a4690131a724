import Mathlib.Tactic.Lemma
import ReviewStream.Proofs.Text.Digits
import ReviewStream.Proofs.Text.Pieces
import ReviewStream.Ssh.Arguments
import ReviewStream.Ssh.AskPass

/-!
# Paths that end in a number

The name of a server may be any text, with slashes, dots, dashes and digits in it.  None of it comes
behind the number of the connect, so the end of a path still tells which connect it belongs to.

* `toList_withExtension`: what another extension makes of a path.
* `IsNumbered`: a path that ends in a dash, a number and an extension.
* `IsNumbered.unique`: such a path ends in one number and one extension only.
* `isNumbered_controlPath`, `IsNumbered.pathFor`, `IsNumbered.lastName`: control sockets and their
  helpers end in the number of the connect, and so do the last names of their paths.
-/

namespace ReviewStream.Ssh

open Text (natDigits natText openPiece)

variable {n m : Nat} {kind other front : List Char} {path : String}

/-! ## Extensions -/

/-- An extension has neither dots nor slashes. -/
structure IsExtension (kind : List Char) : Prop where
  ne_nil : kind ≠ []
  dot_notMem : '.' ∉ kind
  slash_notMem : '/' ∉ kind

lemma isExtension_sock : IsExtension "sock".toList := by
  constructor <;> decide

lemma isExtension_askpass : IsExtension "askpass".toList := by
  constructor <;> decide

/-- Nothing is dropped at the end of a path with an extension. -/
lemma trimPath_append (h : IsExtension kind) (front : List Char) :
    trimPath (front ++ '.' :: kind) = front ++ '.' :: kind := by
  obtain ⟨start, c, rfl⟩ := (List.eq_nil_or_concat kind).resolve_left h.ne_nil
  have hdot : c ≠ '.' := fun hc => h.dot_notMem (by simp [hc])
  have hslash : c ≠ '/' := fun hc => h.slash_notMem (by simp [hc])
  have hkept (cs : List Char) : trimPath.drop (c :: cs) = c :: cs := by
    rw [trimPath.drop]
    · intro _ _ hcs
      exact hslash (List.cons.inj hcs).1
    · intro _ _ hcs
      exact hdot (List.cons.inj hcs).1
  simp [trimPath, hkept]

lemma splitPath_snd (cs : List Char) : (splitPath cs).2 = openPiece '/' cs := by
  simp only [splitPath, openPiece, List.rtakeWhile, ne_eq, decide_not]
  rfl

lemma splitPath_fst_append_snd (cs : List Char) : (splitPath cs).1 ++ (splitPath cs).2 = cs := by
  rw [splitPath, ← List.reverse_append, List.takeWhile_append_dropWhile, List.reverse_reverse]

/-- The last name of a path has the extension of the path. -/
lemma openPiece_append_extension (h : IsExtension kind) (front : List Char) :
    openPiece '/' (front ++ '.' :: kind) = openPiece '/' front ++ '.' :: kind :=
  Text.openPiece_append_of_notMem front (by simpa using h.slash_notMem)

lemma toList_lastName (hkind : IsExtension kind) (h : path.toList = front ++ '.' :: kind) :
    (lastName path).toList = openPiece '/' front ++ '.' :: kind := by
  rw [lastName, String.toList_ofList, h, trimPath_append hkind, splitPath_snd,
    openPiece_append_extension hkind]

/-- The last dot is the one before the extension. -/
lemma stem_append (h : IsExtension kind) (hfront : front ≠ []) :
    stem (front ++ '.' :: kind) = front := by
  have hcut : Text.cutAt '.' (front ++ '.' :: kind).reverse
      = some (kind.reverse, front.reverse) := by
    rw [List.reverse_append, List.reverse_cons, List.append_assoc]
    exact Text.cutAt_append_sep (by simpa using h.dot_notMem) front.reverse
  rw [stem, hcut]
  simp [hfront]

/-- Another extension takes the place of the one that is there. -/
lemma toList_withExtension (hkind : IsExtension kind) (h : path.toList = front ++ '.' :: kind)
    (hname : openPiece '/' front ≠ []) (extension : String) :
    (withExtension path extension).toList = front ++ '.' :: extension.toList := by
  have hlast : (splitPath (front ++ '.' :: kind)).2 = openPiece '/' front ++ '.' :: kind := by
    rw [splitPath_snd, openPiece_append_extension hkind]
  have hfolder : (splitPath (front ++ '.' :: kind)).1 ++ openPiece '/' front = front := by
    have hall := splitPath_fst_append_snd (front ++ '.' :: kind)
    rw [hlast, ← List.append_assoc] at hall
    exact List.append_cancel_right hall
  have hdots : openPiece '/' front ++ '.' :: kind ≠ ['.', '.'] := by
    intro hdots
    have hlength := congrArg List.length hdots
    have hstem := List.length_pos_of_ne_nil hname
    have hextension := List.length_pos_of_ne_nil hkind.ne_nil
    rw [List.length_append, List.length_cons, List.length_cons, List.length_singleton] at hlength
    omega
  rw [withExtension, h, trimPath_append hkind]
  simp only [hlast, stem_append hkind hname, hfolder]
  rw [if_neg (by simpa using hdots)]
  simp

/-! ## Numbers at the end -/

/-- A path that ends in a dash, a number and an extension. -/
def IsNumbered (n : Nat) (kind : List Char) (path : String) : Prop :=
  ∃ front, path.toList = front ++ '-' :: natDigits n ++ '.' :: kind

lemma notMem_natDigits {c : Char} (h : ¬ c.isDigit) : c ∉ natDigits n :=
  fun hc => h (Text.isDigit_of_mem_natDigits hc)

/-- **The end of a path tells its number and its extension.**  The last dot stands before the
extension, and the last dash in front of that before the number. -/
theorem IsNumbered.unique (h : IsNumbered n kind path) (hother : IsNumbered m other path)
    (hkind : IsExtension kind) (hextension : IsExtension other) : n = m ∧ kind = other := by
  obtain ⟨front, hfront⟩ := h
  obtain ⟨before, hbefore⟩ := hother
  have hpath : front ++ '-' :: natDigits n ++ '.' :: kind
      = before ++ '-' :: natDigits m ++ '.' :: other := hfront.symm.trans hbefore
  have hsame : kind = other := by
    have hlast := congrArg (openPiece '.') hpath
    rwa [Text.openPiece_append_sep _ hkind.dot_notMem,
      Text.openPiece_append_sep _ hextension.dot_notMem] at hlast
  subst hsame
  have hdigits : natDigits n = natDigits m := by
    have hlast := congrArg (openPiece '-') (List.append_cancel_right hpath)
    rwa [Text.openPiece_append_sep _ (notMem_natDigits (by decide)),
      Text.openPiece_append_sep _ (notMem_natDigits (by decide))] at hlast
  refine ⟨?_, rfl⟩
  rw [← Text.ofDigitChars_natDigits n, hdigits, Text.ofDigitChars_natDigits]

/-- There are no slashes behind the name of the server. -/
lemma openPiece_append_number (front : List Char) (n : Nat) :
    openPiece '/' (front ++ '-' :: natDigits n) = openPiece '/' front ++ '-' :: natDigits n := by
  refine Text.openPiece_append_of_notMem front ?_
  rw [List.mem_cons, not_or]
  exact ⟨by decide, notMem_natDigits (by decide)⟩

/-- The number is in the last name, wherever the folder is. -/
lemma IsNumbered.lastName (h : IsNumbered n kind path) (hkind : IsExtension kind) :
    IsNumbered n kind (lastName path) := by
  obtain ⟨front, hfront⟩ := h
  refine ⟨openPiece '/' front, ?_⟩
  rw [toList_lastName hkind hfront, openPiece_append_number]

/-- The helper of a control socket has the number of the socket. -/
lemma IsNumbered.pathFor (h : IsNumbered n kind path) (hkind : IsExtension kind) :
    IsNumbered n "askpass".toList (AskPass.pathFor path) := by
  obtain ⟨front, hfront⟩ := h
  have hname : openPiece '/' (front ++ '-' :: natDigits n) ≠ [] := by
    rw [openPiece_append_number]
    exact List.append_ne_nil_of_right_ne_nil _ (List.cons_ne_nil _ _)
  exact ⟨front, toList_withExtension hkind hfront hname "askpass"⟩

/-! ## Control sockets -/

lemma exists_toList_joinPath (directory path : String) :
    ∃ front, (joinPath directory path).toList = front ++ path.toList := by
  unfold joinPath
  split_ifs
  · exact ⟨[], rfl⟩
  · exact ⟨directory.toList, String.toList_append⟩
  · exact ⟨directory.toList ++ ['/'], by simp⟩

lemma toList_socketEnd (start number : String) :
    (start ++ "-" ++ number ++ ".sock").toList
      = start.toList ++ '-' :: number.toList ++ '.' :: "sock".toList := by
  have hdash : "-".toList = ['-'] := by decide
  have hdot : ".sock".toList = '.' :: "sock".toList := by decide
  rw [String.toList_append, String.toList_append, String.toList_append, hdash, hdot,
    List.append_assoc _ ['-'], List.singleton_append]

/-- **A control socket has the number of its connect at its end**, whatever the name of the server
is and wherever temporary files are kept. -/
theorem isNumbered_controlPath (directory name : String) (process n : Nat) :
    IsNumbered n "sock".toList (controlPath directory name process n) := by
  let start := "gerrit-events-" ++ name ++ "-" ++ natText process
  have hname : (socketName name process n).toList
      = start.toList ++ '-' :: (natText n).toList ++ '.' :: "sock".toList :=
    toList_socketEnd start (natText n)
  obtain ⟨front, hfront⟩ := exists_toList_joinPath directory (socketName name process n)
  refine ⟨front ++ start.toList, ?_⟩
  rw [controlPath, hfront, hname, ← Text.toList_natText n]
  simp only [List.append_assoc]

/-- A name in which there is all that could be taken for the end of a path. -/
example : AskPass.pathFor (controlPath "/tmp" "a/..-7-3.sock" 7 12)
    = "/tmp/gerrit-events-a/..-7-3.sock-7-12.askpass" := by
  decide +kernel

end ReviewStream.Ssh
