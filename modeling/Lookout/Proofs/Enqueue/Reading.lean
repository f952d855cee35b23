import Lookout.Enqueue
import Lookout.Proofs.JobLine.Reading

/-!
# Reading jobs from files

The jobs in files are the tests of their lines, one for each line that is neither blank nor a comment, file after
file and line after line. They are read if there is nothing wrong with any of them, and the first thing that is wrong
is the error otherwise.
-/

namespace Lookout.Enqueue
set_option autoImplicit false
open Text

section Gathering

variable {α β ε : Type} {f : Nat → α → Except ε (List β)} {n : Nat} {a : α} {as : List α} {ys : List β} {e : ε}

/-- What `f` gives for the items of a list, which are counted from `n`; the first error if there is one. -/
def gather (f : Nat → α → Except ε (List β)) : Nat → List α → Except ε (List β)
  | _, [] => .ok []
  | n, a :: as =>
    match f n a with
    | .error e => .error e
    | .ok xs => (gather f (n + 1) as).map (xs ++ ·)

theorem gather_cons_of_error (failed : f n a = .error e) : gather f n (a :: as) = .error e := by
  rw [gather, failed]

theorem gather_cons_of_ok {xs : List β} (found : f n a = .ok xs) :
    gather f n (a :: as) = (gather f (n + 1) as).map (xs ++ ·) := by
  rw [gather, found]

theorem gather_cons_eq_ok_iff :
    gather f n (a :: as) = .ok ys ↔ ∃ xs zs, f n a = .ok xs ∧ gather f (n + 1) as = .ok zs ∧ ys = xs ++ zs := by
  cases first : f n a with
  | error e => simp [gather_cons_of_error first]
  | ok xs =>
    rw [gather_cons_of_ok first]
    cases gather f (n + 1) as with
    | error e => simp [Except.map]
    | ok zs => simp [Except.map, eq_comm]

/-- An error is that of the first item that has one. -/
theorem gather_eq_error_iff :
    gather f n as = .error e ↔ ∃ before a after ys, as = before ++ a :: after ∧ gather f n before = .ok ys ∧
      f (n + before.length) a = .error e := by
  induction as generalizing n with
  | nil => simp [gather]
  | cons a as ih =>
    cases first : f n a with
    | error e' =>
      rw [gather_cons_of_error first]
      constructor
      · rintro ⟨⟩
        exact ⟨[], a, as, [], rfl, rfl, first⟩
      · rintro ⟨before, b, after, ys, split, sound, bad⟩
        cases before with
        | nil =>
          obtain ⟨rfl, rfl⟩ := List.cons.inj split
          exact first.symm.trans bad
        | cons c before =>
          obtain ⟨rfl, rfl⟩ := List.cons.inj split
          obtain ⟨xs, zs, fine, -, -⟩ := gather_cons_eq_ok_iff.1 sound
          cases first.symm.trans fine
    | ok xs =>
      have later : gather f n (a :: as) = .error e ↔ gather f (n + 1) as = .error e := by
        rw [gather_cons_of_ok first]
        cases gather f (n + 1) as <;> simp [Except.map]
      rw [later, ih]
      constructor
      · rintro ⟨before, b, after, ys, rfl, sound, bad⟩
        refine ⟨a :: before, b, after, xs ++ ys, rfl, gather_cons_eq_ok_iff.2 ⟨xs, ys, first, sound, rfl⟩, ?_⟩
        rw [List.length_cons, ← bad, Nat.add_right_comm, Nat.add_assoc]
      · rintro ⟨before, b, after, ys, split, sound, bad⟩
        cases before with
        | nil =>
          obtain ⟨rfl, rfl⟩ := List.cons.inj split
          cases first.symm.trans bad
        | cons c before =>
          obtain ⟨rfl, rfl⟩ := List.cons.inj split
          obtain ⟨xs', zs, -, sound, -⟩ := gather_cons_eq_ok_iff.1 sound
          refine ⟨before, b, after, zs, rfl, sound, ?_⟩
          rw [List.length_cons] at bad
          rw [← bad, Nat.add_right_comm, Nat.add_assoc]

end Gathering

/-- Lines in writing. Each ends with a line feed, some with a carriage return before it, and the last one ends with
the text. -/
def writtenLines (ls : List (List Char × Bool)) (last : List Char) : List Char :=
  ls.flatMap (fun l => (if l.2 then l.1 ++ ['\r'] else l.1) ++ ['\n']) ++ last

/-- **The lines of a text**, whichever way each of them ends. -/
theorem linesOf_writtenLines {ls : List (List Char × Bool)} {last : List Char} (inside : ∀ l ∈ ls, '\n' ∉ l.1)
    (bare : ∀ l ∈ ls, l.2 = false → l.1.getLast? ≠ some '\r') (single : '\n' ∉ last) :
    linesOf (String.ofList (writtenLines ls last)) =
      (ls.map Prod.fst ++ if last = [] then [] else [last]).map String.ofList := by
  have parts : splitAt '\n' (writtenLines ls last) = ls.map (fun l => if l.2 then l.1 ++ ['\r'] else l.1) ++ [last] := by
    clear bare
    unfold writtenLines
    induction ls with
    | nil => exact splitAt_of_not_mem single
    | cons l ls ih =>
      rw [List.forall_mem_cons] at inside
      have other : '\n' ∉ if l.2 then l.1 ++ ['\r'] else l.1 := by
        split <;> simp [inside.1]
      rw [List.flatMap_cons, List.append_assoc, List.append_assoc, List.singleton_append, splitAt_append_cons _ other,
        ih inside.2]
      rfl
  have without : ∀ l ∈ ls, withoutReturn (if l.2 then l.1 ++ ['\r'] else l.1) = l.1 := by
    intro l mem
    unfold withoutReturn
    cases returned : l.2 with
    | true => simp
    | false => simp [bare l mem returned]
  have complete : (ls.map fun l => if l.2 then l.1 ++ ['\r'] else l.1).map withoutReturn = ls.map Prod.fst := by
    rw [List.map_map]
    exact List.map_congr_left without
  simp only [linesOf, String.toList_ofList, parts, List.dropLast_concat, List.getLast?_concat, Option.getD_some,
    complete, List.isEmpty_iff]

/-- The tests that lines ask for: one for each line that is neither blank nor a comment, in their order, and each for
a probe that is registered. -/
structure Jobs (registry : Registry) (lines : List String) (ts : List Test) : Prop where
  read : (lines.filter fun line => ¬ JobLine.Silent line).map (JobLine.parse registry) = ts.map fun t => .ok (some t)
  known : ∀ t ∈ ts, registry.contains t.kind = true

/-- The tests in files, all of which can be read. -/
def JobsIn (registry : Registry) (tree : Files.Tree) (files : List String) (ts : List Test) : Prop :=
  ∃ texts : List String, files.map tree.readText = texts.map .ok ∧ Jobs registry (texts.flatMap linesOf) ts

/-- What is wrong with a line at a place. -/
inductive BadLine (registry : Registry) (place : Place) (line : String) : EnqueueError → Prop where
  | malformed {cause : JobLineError} (read : JobLine.parse registry line = .error cause) :
      BadLine registry place line (.badLine place cause)
  | unknown {t : Test} (read : JobLine.parse registry line = .ok (some t))
      (unknown : registry.contains t.kind = false) : BadLine registry place line (.unknownKind place t.kind)

/-- What is wrong with a file: that it cannot be read, or what is wrong with the first of its lines with which
something is. -/
inductive BadFile (registry : Registry) (tree : Files.Tree) (file : String) : EnqueueError → Prop where
  | unreadable {cause : Files.FileError} (read : tree.readText file = .error cause) :
      BadFile registry tree file (.unreadable file cause)
  | line {text line : String} {before after : List String} {ts : List Test} {e : EnqueueError}
      (read : tree.readText file = .ok text) (lines : linesOf text = before ++ line :: after)
      (sound : Jobs registry before ts) (bad : BadLine registry ⟨file, before.length + 1⟩ line e) :
      BadFile registry tree file e

variable {registry : Registry} {tree : Files.Tree} {place : Place} {line file : String}
  {lines lines' files : List String} {ts : List Test} {t? : Option Test} {e : EnqueueError} {n : Nat}

theorem jobs_nil_iff : Jobs registry [] ts ↔ ts = [] := by
  constructor
  · intro jobs
    exact List.map_eq_nil_iff.1 jobs.read.symm
  · rintro rfl
    exact ⟨rfl, by simp⟩

theorem jobs_append_iff :
    Jobs registry (lines ++ lines') ts ↔ ∃ us vs, Jobs registry lines us ∧ Jobs registry lines' vs ∧ ts = us ++ vs := by
  constructor
  · rintro ⟨read, known⟩
    rw [List.filter_append, List.map_append] at read
    obtain ⟨us, vs, rfl, first, last⟩ := List.map_eq_append_iff.1 read.symm
    exact ⟨us, vs, ⟨first.symm, fun t mem => known t (List.mem_append_left _ mem)⟩,
      ⟨last.symm, fun t mem => known t (List.mem_append_right _ mem)⟩, rfl⟩
  · rintro ⟨us, vs, first, last, rfl⟩
    refine ⟨by rw [List.filter_append, List.map_append, first.read, last.read, List.map_append], ?_⟩
    intro t mem
    exact (List.mem_append.1 mem).elim (first.known t) (last.known t)

/-- A line holds at most one test. -/
theorem jobs_singleton_iff : Jobs registry [line] ts ↔
    JobLine.Silent line ∧ ts = [] ∨
      ∃ t, JobLine.parse registry line = .ok (some t) ∧ registry.contains t.kind = true ∧ ts = [t] := by
  constructor
  · rintro ⟨read, known⟩
    by_cases silent : JobLine.Silent line
    · exact .inl ⟨silent, by simpa [silent] using read.symm⟩
    · have one : ts.map (fun t => Except.ok (some t)) = [JobLine.parse registry line] := by
        simpa [silent] using read.symm
      obtain ⟨t, rfl, same⟩ := List.map_eq_singleton_iff.1 one
      exact .inr ⟨t, same.symm, known t (by simp), rfl⟩
  · rintro (⟨silent, rfl⟩ | ⟨t, read, known, rfl⟩)
    · exact ⟨by simp [silent], by simp⟩
    · have speaks : ¬ JobLine.Silent line := fun silent => by simp [JobLine.parse_of_silent silent] at read
      exact ⟨by simp [speaks, read], by simpa using known⟩

theorem readLine_eq_ok_iff : readLine registry place line = .ok t? ↔ Jobs registry [line] t?.toList := by
  rw [jobs_singleton_iff]
  unfold readLine
  cases read : JobLine.parse registry line with
  | error cause =>
    have speaks : ¬ JobLine.Silent line := fun silent => by
      rw [JobLine.parse_of_silent silent] at read
      cases read
    simp [speaks]
  | ok found =>
    cases found with
    | none => cases t? <;> simp [JobLine.parse_eq_none_iff.1 read]
    | some t =>
      have speaks : ¬ JobLine.Silent line := fun silent => by simp [JobLine.parse_of_silent silent] at read
      cases known : registry.contains t.kind with
      | false =>
        simp only [known, Bool.false_eq_true, if_false, speaks, false_and, false_or]
        constructor
        · rintro ⟨⟩
        · rintro ⟨u, ⟨⟩, known', -⟩
          rw [known] at known'
          cases known'
      | true =>
        simp only [known, if_true, speaks, false_and, false_or]
        constructor
        · rintro ⟨⟩
          exact ⟨t, rfl, known, rfl⟩
        · rintro ⟨u, ⟨⟩, -, same⟩
          rw [Option.toList_eq_singleton_iff.1 same]

theorem readLine_eq_error_iff : readLine registry place line = .error e ↔ BadLine registry place line e := by
  unfold readLine
  constructor
  · intro failed
    split at failed
    · next read =>
      obtain rfl := Except.error.inj failed
      exact .malformed read
    · cases failed
    · next t read =>
      cases known : registry.contains t.kind with
      | true => simp [known] at failed
      | false =>
        simp only [known, Bool.false_eq_true, if_false, Except.error.injEq] at failed
        exact failed ▸ .unknown read known
  · intro bad
    cases bad with
    | malformed read => simp [read]
    | unknown read unknown => simp [read, unknown]

theorem readLines_eq_gather (n : Nat) (lines : List String) : readLines registry file n lines =
    gather (fun k line => (readLine registry ⟨file, k⟩ line).map Option.toList) n lines := by
  induction lines generalizing n with
  | nil => rfl
  | cons line lines ih =>
    rw [readLines, gather, ih]
    cases readLine registry ⟨file, n⟩ line with
    | error e => rfl
    | ok t? => cases gather _ (n + 1) lines <;> rfl

theorem readJobs_eq_gather (n : Nat) (files : List String) :
    readJobs registry tree files = gather (fun _ => readFile registry tree) n files := by
  induction files generalizing n with
  | nil => rfl
  | cons file files ih =>
    rw [readJobs, gather, ih (n + 1)]
    cases readFile registry tree file with
    | error e => rfl
    | ok ts => cases gather _ (n + 1) files <;> rfl

/-- **The lines of a file are read** as the tests that they ask for. -/
theorem readLines_eq_ok_iff : readLines registry file n lines = .ok ts ↔ Jobs registry lines ts := by
  induction lines generalizing n ts with
  | nil =>
    rw [jobs_nil_iff, readLines, Except.ok.injEq]
    exact eq_comm
  | cons line lines ih =>
    rw [← List.singleton_append, jobs_append_iff, List.singleton_append, readLines_eq_gather, gather_cons_eq_ok_iff]
    refine exists₂_congr fun us vs => ?_
    rw [← readLines_eq_gather, ih]
    refine and_congr_left fun _ => ?_
    constructor
    · intro read
      cases found : readLine registry ⟨file, n⟩ line with
      | error e => simp [found, Except.map] at read
      | ok t? =>
        rw [found] at read
        obtain rfl := Except.ok.inj read
        exact readLine_eq_ok_iff.1 found
    · intro jobs
      obtain ⟨t?, rfl⟩ : ∃ t? : Option Test, us = t?.toList := by
        rcases jobs_singleton_iff.1 jobs with ⟨-, rfl⟩ | ⟨t, -, -, rfl⟩
        · exact ⟨none, rfl⟩
        · exact ⟨some t, rfl⟩
      rw [readLine_eq_ok_iff.2 jobs]
      rfl

theorem readLines_eq_error_iff : readLines registry file n lines = .error e ↔ ∃ before line after ts,
    lines = before ++ line :: after ∧ Jobs registry before ts ∧
      BadLine registry ⟨file, n + before.length⟩ line e := by
  rw [readLines_eq_gather, gather_eq_error_iff]
  refine exists₄_congr fun before line after ts => and_congr_right fun _ => ?_
  rw [← readLines_eq_gather, readLines_eq_ok_iff, ← readLine_eq_error_iff]
  cases readLine registry ⟨file, n + before.length⟩ line <;> simp [Except.map]

theorem readFile_eq_ok_iff :
    readFile registry tree file = .ok ts ↔ ∃ text, tree.readText file = .ok text ∧ Jobs registry (linesOf text) ts := by
  unfold readFile
  cases tree.readText file with
  | error cause => simp
  | ok text => simp [readLines_eq_ok_iff]

theorem readFile_eq_error_iff : readFile registry tree file = .error e ↔ BadFile registry tree file e := by
  unfold readFile
  cases read : tree.readText file with
  | error cause =>
    simp only [Except.error.injEq]
    constructor
    · rintro rfl
      exact .unreadable read
    · intro bad
      cases bad with
      | unreadable read' => rw [Except.error.inj (read.symm.trans read')]
      | line read' => cases read.symm.trans read'
  | ok text =>
    simp only [readLines_eq_error_iff]
    constructor
    · rintro ⟨before, line, after, ts, lines, sound, bad⟩
      exact .line read lines sound (Nat.add_comm 1 _ ▸ bad)
    · intro bad
      cases bad with
      | unreadable read' => cases read.symm.trans read'
      | line read' lines sound bad =>
        obtain rfl := Except.ok.inj (read.symm.trans read')
        exact ⟨_, _, _, _, lines, sound, Nat.add_comm _ 1 ▸ bad⟩

/-- **Files are read** as the tests that are in them. -/
theorem readJobs_eq_ok_iff : readJobs registry tree files = .ok ts ↔ JobsIn registry tree files ts := by
  unfold JobsIn
  induction files generalizing ts with
  | nil => simp [readJobs, jobs_nil_iff, eq_comm]
  | cons file files ih =>
    rw [readJobs_eq_gather 0, gather_cons_eq_ok_iff, ← readJobs_eq_gather]
    simp only [ih, readFile_eq_ok_iff, List.map_cons]
    constructor
    · rintro ⟨us, vs, ⟨text, read, first⟩, ⟨texts, all, rest⟩, rfl⟩
      exact ⟨text :: texts, by rw [read, all, List.map_cons],
        jobs_append_iff.2 ⟨us, vs, first, rest, rfl⟩⟩
    · rintro ⟨texts, all, jobs⟩
      cases texts with
      | nil => cases all
      | cons text texts =>
        obtain ⟨read, all⟩ := List.cons.inj all
        obtain ⟨us, vs, first, rest, rfl⟩ := jobs_append_iff.1 jobs
        exact ⟨us, vs, ⟨text, read, first⟩, ⟨texts, all, rest⟩, rfl⟩

/-- Reading fails at the first place in the files that something is wrong with. -/
theorem readJobs_eq_error_iff : readJobs registry tree files = .error e ↔ ∃ before file after ts,
    files = before ++ file :: after ∧ JobsIn registry tree before ts ∧ BadFile registry tree file e := by
  rw [readJobs_eq_gather 0, gather_eq_error_iff]
  refine exists₄_congr fun before file after ts => and_congr_right fun _ => ?_
  rw [← readJobs_eq_gather, readJobs_eq_ok_iff, readFile_eq_error_iff]

end Lookout.Enqueue
