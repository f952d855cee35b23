import Lookout.Configuration.File
import Lookout.Proofs.Files.Parents
import Lookout.Proofs.Toml.Documents

/-!
# Configurations read back

A configuration in TOML is four sections of fields, each of which is read as it was. TOML can carry all of it but
numbers beyond 63 bits: such a configuration is not written at all, and any other one is loaded again as it was from
the file that it was saved in.
-/

namespace Lookout.Configuration
set_option autoImplicit false
open Toml

/-- The numbers of a configuration that TOML may not be able to carry. -/
def seconds (c : Configuration) : List UInt64 :=
  [c.worker.retryDelay, c.worker.timeout, c.worker.poll]

/-- TOML can carry the numbers of a configuration. -/
def Carried (c : Configuration) : Prop :=
  ∀ n ∈ c.seconds, n.toNat ≤ Text.maxInt64

theorem spells_toNat {n : Nat} (small : n ≤ Text.maxInt64) : Spells (toString n) (.integer n) :=
  @spells_toString n (by omega) (by omega)

theorem spells_word32 (n : UInt32) : Spells (toString n.toNat) (.integer n.toNat) := by
  have small : n.toNat < 4294967296 := n.toNat_lt
  refine spells_toNat ?_
  simp only [Text.maxInt64]
  omega

theorem spells_int64 (i : Int64) : Spells (toString i.toInt) (.integer i.toInt) := by
  obtain ⟨low, high⟩ := Text.int64_range i
  exact spells_toString low high

def serverSection (s : Server) : Section where
  name := "redis"
  fields := [
    ⟨"host", _, _, by decide, spells_writeString s.host⟩,
    ⟨"db", _, _, by decide, spells_int64 s.db⟩,
    ⟨"password", _, _, by decide, spells_writeString s.password⟩]
  bare := by decide
  nodup := (by decide : ["host", "db", "password"].Nodup)

def queuesSection (q : Queues) : Section where
  name := "queues"
  fields := [
    ⟨"jobs", _, _, by decide, spells_writeString q.jobs⟩,
    ⟨"results", _, _, by decide, spells_writeString q.results⟩]
  bare := by decide
  nodup := (by decide : ["jobs", "results"].Nodup)

def workSection (w : Work) (delay : w.retryDelay.toNat ≤ Text.maxInt64) (timeout : w.timeout.toNat ≤ Text.maxInt64)
    (poll : w.poll.toNat ≤ Text.maxInt64) : Section where
  name := "worker"
  fields := [
    ⟨"ipv4", _, _, by decide, spells_writeBool w.ipv4⟩,
    ⟨"ipv6", _, _, by decide, spells_writeBool w.ipv6⟩,
    ⟨"retry", _, _, by decide, spells_writeBool w.retry⟩,
    ⟨"retry_count", _, _, by decide, spells_word32 w.retryCount⟩,
    ⟨"retry_delay_seconds", _, _, by decide, spells_toNat delay⟩,
    ⟨"timeout_seconds", _, _, by decide, spells_toNat timeout⟩,
    ⟨"verbose", _, _, by decide, spells_writeBool w.verbose⟩,
    ⟨"poll_seconds", _, _, by decide, spells_toNat poll⟩]
  bare := by decide
  nodup := (by decide : ["ipv4", "ipv6", "retry", "retry_count", "retry_delay_seconds", "timeout_seconds", "verbose",
    "poll_seconds"].Nodup)

def routingSection (r : Routing) : Section where
  name := "router"
  fields := [⟨"destinations", _, _, by decide, spells_writeStrings r.destinations⟩]
  bare := by decide
  nodup := (by decide : ["destinations"].Nodup)

theorem serverOf_section (s : Server) : serverOf (serverSection s).entry.2 = some s := by
  have fields : serverOf (serverSection s).entry.2 = some { s with db := Int64.ofInt s.db.toInt } := rfl
  rw [fields, Int64.ofInt_toInt]

theorem queuesOf_section (q : Queues) : queuesOf (queuesSection q).entry.2 = some q :=
  rfl

theorem word32Of_toNat (n : UInt32) : word32Of (.integer n.toNat) = some n := by
  have small : n.toNat ≤ Text.maxWord32 := Nat.le_of_lt_succ n.toNat_lt
  simp [word32Of, natOf, small]

theorem word64Of_toNat (n : UInt64) : word64Of (.integer n.toNat) = some n := by
  have small : n.toNat ≤ Text.maxWord64 := Nat.le_of_lt_succ n.toNat_lt
  simp [word64Of, natOf, small]

theorem workOf_section (w : Work) (delay : w.retryDelay.toNat ≤ Text.maxInt64)
    (timeout : w.timeout.toNat ≤ Text.maxInt64) (poll : w.poll.toNat ≤ Text.maxInt64) :
    workOf (workSection w delay timeout poll).entry.2 = some w := by
  have fields : workOf (workSection w delay timeout poll).entry.2 = do
      let count ← word32Of (.integer w.retryCount.toNat)
      let delay ← word64Of (.integer w.retryDelay.toNat)
      let timeout ← word64Of (.integer w.timeout.toNat)
      let poll ← word64Of (.integer w.poll.toNat)
      return { w with retryCount := count, retryDelay := delay, timeout := timeout, poll := poll } := rfl
  rw [fields]
  simp only [word32Of_toNat, word64Of_toNat, Option.bind_eq_bind, Option.bind_some, Option.pure_def]

theorem stringsOf_strings (ss : List String) : stringsOf (.array (ss.map .string)) = some ss := by
  induction ss with
  | nil => rfl
  | cons s ss ih =>
    simp only [stringsOf, List.map_cons, List.mapM_cons] at ih ⊢
    rw [ih]
    rfl

theorem routingOf_section (r : Routing) : routingOf (routingSection r).entry.2 = some r := by
  have fields : routingOf (routingSection r).entry.2 =
    (stringsOf (.array (r.destinations.map .string))).bind fun destinations => some ⟨destinations⟩ := rfl
  rw [fields, stringsOf_strings]
  rfl

section
variable {c : Configuration} {tree tree' : Files.Tree} {path text : String}

theorem carried_iff : c.Carried ↔ c.worker.retryDelay.toNat ≤ Text.maxInt64 ∧ c.worker.timeout.toNat ≤ Text.maxInt64 ∧
    c.worker.poll.toNat ≤ Text.maxInt64 := by
  simp [Carried, seconds]

theorem toToml?_eq_none_iff : c.toToml? = none ↔ ¬ c.Carried := by
  rw [carried_iff]
  simp [toToml?, writeNat?]

/-- The sections of a configuration whose numbers TOML can carry. -/
def sections (c : Configuration) (carried : c.Carried) : List Section :=
  [serverSection c.redis, queuesSection c.queues, workSection c.worker (carried_iff.1 carried).1
    (carried_iff.1 carried).2.1 (carried_iff.1 carried).2.2, routingSection c.router]

theorem toToml?_eq_some (carried : c.Carried) :
    c.toToml? = some (String.intercalate "\n" ((c.sections carried).map Section.written)) := by
  obtain ⟨delay, timeout, poll⟩ := carried_iff.1 carried
  simp only [toToml?, writeNat?, if_pos delay, if_pos timeout, if_pos poll]
  rfl

/-- **A configuration in TOML is read as itself.** -/
theorem ofToml?_of_toToml? (written : c.toToml? = some text) : ofToml? text = some c := by
  have carried : c.Carried := by
    by_contra beyond
    rw [toToml?_eq_none_iff.2 beyond] at written
    cases written
  have document := @document?_sections (c.sections carried) (by decide : ["redis", "queues", "worker", "router"].Nodup)
  rw [← Option.some.inj ((toToml?_eq_some carried).symm.trans written), ofToml?, document]
  have redis : ((c.sections carried).map Section.entry).lookup "redis" = some (serverSection c.redis).entry.2 := rfl
  have queues : ((c.sections carried).map Section.entry).lookup "queues" = some (queuesSection c.queues).entry.2 := rfl
  have worker : ((c.sections carried).map Section.entry).lookup "worker" =
    some (workSection c.worker (carried_iff.1 carried).1 (carried_iff.1 carried).2.1
      (carried_iff.1 carried).2.2).entry.2 := rfl
  have router : ((c.sections carried).map Section.entry).lookup "router" = some (routingSection c.router).entry.2 := rfl
  simp only [Option.bind_eq_bind, Option.bind_some, redis, queues, worker, router, field, serverOf_section,
    queuesOf_section, workOf_section, routingOf_section]
  rfl

/-- A file is written where there is a place for it. -/
theorem writeFile_of_place {names : Files.Names} (placed : tree.place path = .ok names) (text : String) :
    (writeFile tree path text).1 = .ok () := by
  have write : (tree.write path (Payload.ofText text)).1 = .ok () := by rw [Files.Tree.write, placed]
  unfold writeFile
  split
  · exact write
  · next directory parent =>
    rw [Files.Tree.makeDirectories_parent (Files.Tree.place_eq_ok placed).1 parent]
    exact write

/-- A file that was written is loaded as the configuration that it says. -/
theorem load_of_writeFile (written : writeFile tree path text = (.ok (), tree')) (read : ofToml? text = some c) :
    load tree' path = .ok (some c) := by
  have stored : tree'.pathExists path = true ∧ tree'.read path = .ok (Payload.ofText text) := by
    unfold writeFile at written
    split at written
    · exact Files.Tree.read_of_write written
    · split at written
      · cases written
      · exact Files.Tree.read_of_write written
  have whole : tree'.readText path = .ok text := by
    simp only [Files.Tree.readText, stored.2, bind, Except.bind, Payload.text?_ofText]
  simp only [load, stored.1, if_true, whole, read]

theorem save_of_none (unwritten : c.toToml? = none) : c.save tree path = (.error .unserializable, tree) := by
  rw [save, unwritten]

theorem save_of_some (written : c.toToml? = some text) :
    c.save tree path = ((writeFile tree path text).1.mapError (.unwritable path), (writeFile tree path text).2) := by
  rw [save, written]

/-- **A configuration that is saved reads back.** It is saved where a file has a place, unless it has a number that TOML
cannot carry: then it fails to be serialized, and no file and no directory is made or changed. -/
theorem saved_reads_back (c : Configuration) (tree : Files.Tree) (path : String) :
    (∀ tree', c.save tree path = (.ok (), tree') → load tree' path = .ok (some c)) ∧
      (∀ names, tree.place path = .ok names → ((c.save tree path).1 = .ok () ↔ c.toToml? ≠ none)) ∧
      (c.toToml? = none ↔ ∃ n ∈ c.seconds, Text.maxInt64 < n.toNat) ∧
      ((c.save tree path).1 = .error .unserializable ↔ c.toToml? = none) ∧
      (c.toToml? = none → c.save tree path = (.error .unserializable, tree)) := by
  refine ⟨?_, ?_, ?_, ?_, save_of_none⟩
  · intro tree' saved
    cases written : c.toToml? with
    | none =>
      rw [save_of_none written] at saved
      cases saved
    | some text =>
      rw [save_of_some written] at saved
      obtain ⟨outcome, same⟩ := Prod.mk.inj saved
      cases done : (writeFile tree path text).1 with
      | error cause => simp [done, Except.mapError] at outcome
      | ok => exact load_of_writeFile (Prod.ext done same) (ofToml?_of_toToml? written)
  · intro names placed
    cases written : c.toToml? with
    | none => simp [save_of_none written]
    | some text => simp [save_of_some written, writeFile_of_place placed, Except.mapError]
  · simp only [toToml?_eq_none_iff, Carried, Classical.not_forall, Nat.not_le, exists_prop]
  · cases written : c.toToml? with
    | none => simp [save_of_none written]
    | some text =>
      rw [save_of_some written]
      cases done : (writeFile tree path text).1 with
      | error cause => simp [Except.mapError]
      | ok => simp [Except.mapError]

end

/-- Strings in all styles, and numbers at the limits of what TOML can carry. -/
def motley : Configuration where
  redis := { host := "it's \"here\"", db := -9223372036854775808, password := "a bell \x07 and a \\" }
  queues := { jobs := "two\nlines, \"quoted\"", results := "C:\\results" }
  worker := { retryCount := 4294967295, timeout := 9223372036854775807 }
  router := { destinations := ["alerts[result=failed]", "it's '' \\"] }

/-- A number that TOML cannot carry. -/
def unwritable : Configuration where
  worker := { poll := 9223372036854775808 }

/-- The first of these is saved where there is a place for it and where a directory is made for it, and read back there;
the other leaves no directory. -/
theorem motley_saved :
    (motley.save {} "/config.toml").1 = .ok () ∧
      load (motley.save {} "/nested/config.toml").2 "/nested/config.toml" = .ok (some motley) ∧
      unwritable.save {} "/nested/config.toml" = (.error .unserializable, {}) := by
  have saved : (motley.save {} "/nested/config.toml").1 = .ok () := by decide +kernel
  obtain ⟨-, succeeds, refused, -⟩ := saved_reads_back motley {} "/config.toml"
  obtain ⟨reads, -⟩ := saved_reads_back motley {} "/nested/config.toml"
  obtain ⟨-, -, large, -, untouched⟩ := saved_reads_back unwritable {} "/nested/config.toml"
  exact ⟨(succeeds ["config.toml".toList] (by decide)).2 (mt refused.1 (by decide)), reads _ (Prod.ext saved rfl),
    untouched (large.2 ⟨9223372036854775808, by decide, by decide⟩)⟩

end Lookout.Configuration
