import Lookout.Kube.Access

/-!
# The current context of a kubeconfig

Of a kubeconfig the current context counts, the first of its name, with the first cluster and the first user of the
names that it refers to. What else a kubeconfig lists, and the files that only others refer to, make no difference to the
access that it gives, and what is granted is that of this cluster and this user.
-/

namespace Lookout.Kube
set_option autoImplicit false
open Yaml

/-- What the current context of a kubeconfig leads to. -/
structure Selection where
  context : Option Context
  cluster : Option Cluster
  user : Option User
deriving DecidableEq

/-- The name of the current context. An empty name is none. -/
def Config.current (c : Config) : Option String :=
  c.currentContext.filter (· != "")

/-- The first context of the current name. -/
def Config.context? (c : Config) : Option Context :=
  c.current.bind fun name => c.contexts.lookup name

/-- The current context, and the first cluster and the first user of the names that it refers to. -/
def Config.selection (c : Config) : Selection where
  context := c.context?
  cluster := c.context?.bind fun context => c.clusters.lookup context.cluster
  user := c.context?.bind fun context => context.user.bind fun name => c.users.lookup name

/-- The file that a cluster is read from. -/
def Cluster.file? (c : Cluster) : Option String :=
  if c.authorityData.isSome then none else c.authorityFile

/-- The file that the token of a user is read from. -/
def User.file? (u : User) : Option String :=
  if u.token.isSome then none else u.tokenFile

/-- The files that are read for a selection. -/
def Selection.files (s : Selection) : List String :=
  (s.cluster.bind Cluster.file?).toList ++ (s.user.bind User.file?).toList

/-- Where relative paths in a kubeconfig are taken from. -/
def directoryOf (path : String) : String :=
  (Files.parent? path).getD "."

/-- A certificate authority is the data of a cluster, or else the content of its file. -/
inductive AuthorityFrom (tree : Files.Tree) (base : String) (c : Cluster) : Option Payload → Prop
  | data {d : String} {p : Payload} (given : c.authorityData = some d)
      (decoded : Base64.decode? (Text.trim d.toList) = some p) : AuthorityFrom tree base c (some p)
  | file {f : String} {p : Payload} (noData : c.authorityData = none) (named : c.authorityFile = some f)
      (read : tree.read (Files.join base f) = .ok p) : AuthorityFrom tree base c (some p)
  | unnamed (noData : c.authorityData = none) (noFile : c.authorityFile = none) : AuthorityFrom tree base c none

/-- A token is that of the user, or else the text of the user's file, trimmed. -/
inductive TokenFrom (tree : Files.Tree) (base : String) (user : Option User) : Option String → Prop
  | given {u : User} {t : String} (selected : user = some u) (token : u.token = some t) :
      TokenFrom tree base user (some t)
  | file {u : User} {f text : String} (selected : user = some u) (noToken : u.token = none)
      (named : u.tokenFile = some f) (read : tree.readText (Files.join base f) = .ok text) :
      TokenFrom tree base user (some (Text.trimmed text))
  | unnamed (nothing : ∀ u, user = some u → u.token = none ∧ u.tokenFile = none) : TokenFrom tree base user none

variable {tree tree' : Files.Tree} {base path text text' : String} {c c' : Config} {cluster : Cluster}
  {user : Option User}

/-! ### Files -/

theorem readText_congr {file : String} (agree : tree.read file = tree'.read file) :
    tree.readText file = tree'.readText file := by
  rw [Files.Tree.readText, Files.Tree.readText, agree]

theorem authorityOf_congr (agree : ∀ file, cluster.file? = some file →
    tree.read (Files.join base file) = tree'.read (Files.join base file)) :
    authorityOf tree base cluster = authorityOf tree' base cluster := by
  unfold authorityOf
  split
  · rfl
  · next file noData named => rw [agree file (by simp [Cluster.file?, noData, named])]
  · rfl

theorem tokenOf_congr (agree : ∀ file, user.bind User.file? = some file →
    tree.read (Files.join base file) = tree'.read (Files.join base file)) :
    tokenOf tree base user = tokenOf tree' base user := by
  unfold tokenOf
  split
  · rfl
  · next file => rw [readText_congr (agree file (by simp [User.file?]))]
  · rfl

/-! ### What is granted -/

theorem authorityFrom_of_authorityOf {authority : Option Payload}
    (granted : authorityOf tree base cluster = .ok authority) : AuthorityFrom tree base cluster authority := by
  unfold authorityOf at granted
  split at granted
  · next given =>
    split at granted
    · next decoded =>
      obtain rfl := Except.ok.inj granted
      exact .data given decoded
    · cases granted
  · next noData named =>
    split at granted
    · next read =>
      obtain rfl := Except.ok.inj granted
      exact .file noData named read
    · cases granted
  · next noData noFile =>
    obtain rfl := Except.ok.inj granted
    exact .unnamed noData noFile

theorem tokenFrom_of_tokenOf {token : Option String} (granted : tokenOf tree base user = .ok token) :
    TokenFrom tree base user token := by
  unfold tokenOf at granted
  split at granted
  · obtain rfl := Except.ok.inj granted
    exact .given rfl rfl
  · split at granted
    · next read =>
      obtain rfl := Except.ok.inj granted
      exact .file rfl rfl rfl read
    · cases granted
  · next noToken noFile =>
    obtain rfl := Except.ok.inj granted
    refine .unnamed ?_
    rintro ⟨token, file⟩ rfl
    cases token with
    | some t => exact (noToken t file rfl).elim
    | none =>
      cases file with
      | some f => exact (noFile f rfl).elim
      | none => exact ⟨rfl, rfl⟩

/-- **The access that a kubeconfig gives** is that of its selection. -/
theorem access_eq (c : Config) (tree : Files.Tree) (path base : String) : c.access tree path base =
    match c.current, c.selection.context, c.selection.cluster with
    | none, _, _ => .error (.noCurrentContext path)
    | some name, none, _ => .error (.contextNotFound name)
    | some _, some context, none => .error (.clusterNotFound context.cluster)
    | some _, some _, some cluster => do
      let authority ← authorityOf tree base cluster
      let token ← tokenOf tree base c.selection.user
      return { apiServer := cluster.server, token, authority, insecure := cluster.insecure } := by
  unfold Config.access
  cases current : c.currentContext.filter (· != "") with
  | none => simp [Config.current, current, bind, Except.bind]
  | some name =>
    cases found : c.contexts.lookup name with
    | none => simp [Config.current, Config.selection, Config.context?, current, found, bind, Except.bind]
    | some context =>
      cases cluster : c.clusters.lookup context.cluster with
      | none => simp [Config.current, Config.selection, Config.context?, current, found, cluster, bind, Except.bind]
      | some named =>
        simp [Config.current, Config.selection, Config.context?, current, found, cluster, bind, Except.bind]

/-- Kubeconfigs with the same selection give the same access. -/
theorem access_congr (current : c.current = c'.current) (same : c.selection = c'.selection)
    (agree : ∀ file ∈ c.selection.files, tree.read (Files.join base file) = tree'.read (Files.join base file)) :
    c.access tree path base = c'.access tree' path base := by
  rw [access_eq, access_eq, ← current, ← same]
  split
  · rfl
  · rfl
  · rfl
  · next cluster _ _ chosen =>
    have authority : authorityOf tree base cluster = authorityOf tree' base cluster :=
      authorityOf_congr fun file read => agree file (by simp [Selection.files, chosen, read])
    have token : tokenOf tree base c.selection.user = tokenOf tree' base c.selection.user :=
      tokenOf_congr fun file read => agree file (by simp [Selection.files, read])
    rw [authority, token]

theorem granted_of_access {a : Access} (granted : c.access tree path base = .ok a) :
    ∃ cluster, c.selection.cluster = some cluster ∧ a.apiServer = cluster.server ∧ a.insecure = cluster.insecure ∧
      TokenFrom tree base c.selection.user a.token ∧ AuthorityFrom tree base cluster a.authority := by
  rw [access_eq] at granted
  split at granted
  · cases granted
  · cases granted
  · cases granted
  · next cluster _ _ chosen =>
    cases authority : authorityOf tree base cluster with
    | error e => simp [authority, bind, Except.bind] at granted
    | ok p =>
      cases token : tokenOf tree base c.selection.user with
      | error e => simp [authority, token, bind, Except.bind] at granted
      | ok t =>
        simp only [authority, token, bind, Except.bind, pure, Except.pure] at granted
        obtain rfl := Except.ok.inj granted
        exact ⟨cluster, chosen, rfl, rfl, tokenFrom_of_tokenOf token, authorityFrom_of_authorityOf authority⟩

theorem accessOfFile_eq (stored : tree.readText path = .ok text) (read : (document? text).bind configOf = some c) :
    accessOfFile tree path = c.access tree path (directoryOf path) := by
  rw [accessOfFile, stored]
  simp only [read]
  rfl

/-- **Only the current context counts.** Two kubeconfigs with the same selection give the same access, or fail in the
same way, as long as the files that are read for it are the same; and a token or certificate authority that is granted
is that of the selection. -/
theorem only_selection_counts {tree tree' : Files.Tree} {path text text' : String} {c c' : Config}
    (stored : tree.readText path = .ok text) (stored' : tree'.readText path = .ok text')
    (read : (document? text).bind configOf = some c) (read' : (document? text').bind configOf = some c')
    (current : c.currentContext = c'.currentContext) (same : c.selection = c'.selection)
    (agree : ∀ file ∈ c.selection.files,
      tree.read (Files.join (directoryOf path) file) = tree'.read (Files.join (directoryOf path) file)) :
    accessOfFile tree path = accessOfFile tree' path ∧
      ∀ a, accessOfFile tree path = .ok a → ∃ cluster, c.selection.cluster = some cluster ∧
        a.apiServer = cluster.server ∧ a.insecure = cluster.insecure ∧
          TokenFrom tree (directoryOf path) c.selection.user a.token ∧
            AuthorityFrom tree (directoryOf path) cluster a.authority := by
  rw [accessOfFile_eq stored read, accessOfFile_eq stored' read']
  refine ⟨access_congr ?_ same agree, fun a granted => granted_of_access granted⟩
  rw [Config.current, Config.current, current]

/-- A text of lines. -/
def document (lines : List String) : String :=
  String.ofList (lines.flatMap fun line => line.toList ++ ['\n'])

/-- A kubeconfig with nothing but its current context. -/
def lone : String := document [
  "current-context: prod",
  "contexts:",
  "- name: prod",
  "  context:",
  "    cluster: main",
  "    user: admin",
  "clusters:",
  "- name: main",
  "  cluster:",
  "    server: https://10.0.0.1",
  "    certificate-authority: ca",
  "users:",
  "- name: admin",
  "  user:",
  "    tokenFile: token"]

/-- A kubeconfig with the same current context, behind another one and with a second user of the same name. -/
def crowded : String := document [
  "current-context: prod",
  "contexts:",
  "- name: dev",
  "  context:",
  "    cluster: spare",
  "    user: guest",
  "- name: prod",
  "  context:",
  "    cluster: main",
  "    user: admin",
  "clusters:",
  "- name: main",
  "  cluster:",
  "    server: https://10.0.0.1",
  "    certificate-authority: ca",
  "users:",
  "- name: guest",
  "  user:",
  "    tokenFile: other",
  "- name: admin",
  "  user:",
  "    tokenFile: token",
  "- name: admin",
  "  user:",
  "    token: stale"]

/-- A kubeconfig beside the files of its current context and a file of another user. -/
def home (config other : String) : Files.Tree where
  nodes := [
    (["kube".toList], .directory),
    (["kube".toList, "config".toList], .file (.ofText config)),
    (["kube".toList, "ca".toList], .file (.ofText "root")),
    (["kube".toList, "token".toList], .file (.ofText "\tsecret\n")),
    (["kube".toList, "other".toList], .file (.ofText other))]

def loneConfig : Config where
  currentContext := some "prod"
  contexts := [("prod", ⟨"main", some "admin"⟩)]
  clusters := [("main", ⟨"https://10.0.0.1", some "ca", none, false⟩)]
  users := [("admin", ⟨none, some "token"⟩)]

def crowdedConfig : Config where
  currentContext := some "prod"
  contexts := [("dev", ⟨"spare", some "guest"⟩), ("prod", ⟨"main", some "admin"⟩)]
  clusters := [("main", ⟨"https://10.0.0.1", some "ca", none, false⟩)]
  users := [("guest", ⟨none, some "other"⟩), ("admin", ⟨none, some "token"⟩), ("admin", ⟨some "stale", none⟩)]

/-- The other context, the other users, and what is in the file of one of them, make no difference. -/
theorem crowd_makes_no_difference :
    (home lone "x").readText "/kube/config" = .ok lone ∧ (home crowded "y").readText "/kube/config" = .ok crowded ∧
      (document? lone).bind configOf = some loneConfig ∧ (document? crowded).bind configOf = some crowdedConfig ∧
      loneConfig.selection = crowdedConfig.selection ∧
      accessOfFile (home lone "x") "/kube/config" = accessOfFile (home crowded "y") "/kube/config" ∧
      (accessOfFile (home lone "x") "/kube/config").toOption =
        some { apiServer := "https://10.0.0.1", token := some "secret", authority := some (.ofText "root") } := by
  have kubeconfig : ∀ config other, (home config other).read "/kube/config" = .ok (.ofText config) := fun _ _ => rfl
  have ca : ∀ config other, (home config other).read "/kube/ca" = .ok (.ofText "root") := fun _ _ => rfl
  have token : ∀ config other, (home config other).read "/kube/token" = .ok (.ofText "\tsecret\n") := fun _ _ => rfl
  have stored : ∀ config other, (home config other).readText "/kube/config" = .ok config := by
    intro config other
    rw [Files.Tree.readText, kubeconfig]
    simp [Payload.text?_ofText, bind, Except.bind]
  have read : (document? lone).bind configOf = some loneConfig := by
    rw [lone, document, document?, String.toList_ofList, String.length_ofList]
    decide +kernel
  have read' : (document? crowded).bind configOf = some crowdedConfig := by
    rw [crowded, document, document?, String.toList_ofList, String.length_ofList]
    decide +kernel
  have same : loneConfig.selection = crowdedConfig.selection := by decide
  have files : loneConfig.selection.files = ["ca", "token"] := by decide
  have agree : ∀ file ∈ loneConfig.selection.files,
      (home lone "x").read (Files.join (directoryOf "/kube/config") file) =
        (home crowded "y").read (Files.join (directoryOf "/kube/config") file) := by
    have joined : Files.join (directoryOf "/kube/config") "ca" = "/kube/ca" ∧
        Files.join (directoryOf "/kube/config") "token" = "/kube/token" := by
      decide +kernel
    intro file mem
    rw [files, List.mem_cons, List.mem_singleton] at mem
    rcases mem with rfl | rfl
    · rw [joined.1, ca, ca]
    · rw [joined.2, token, token]
  have counts := (only_selection_counts (stored _ _) (stored _ _) read read' rfl same agree).1
  refine ⟨stored _ _, stored _ _, read, read', same, counts, ?_⟩
  rw [accessOfFile_eq (stored _ _) read]
  decide +kernel

end Lookout.Kube
