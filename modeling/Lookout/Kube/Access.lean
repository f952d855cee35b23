import Lookout.Files.Tree
import Lookout.Payload
import Lookout.Text.Blank
import Lookout.Yaml.Reader

/-!
# Access to a Kubernetes cluster

Where the API server of a cluster is and how to be let in: by the current context of a kubeconfig file,
or by the environment of a pod. Of a kubeconfig only the current context, and the cluster and the user
that it names, are used.
-/

namespace Lookout.Kube
set_option autoImplicit false
open Yaml

/-- How to reach the API server. -/
structure Access where
  apiServer : String
  token : Option String := none
  /-- The certificate authority to trust. -/
  authority : Option Payload := none
  /-- Whether any certificate will do. -/
  insecure : Bool := false
deriving DecidableEq

/-- The context of a kubeconfig. -/
structure Context where
  cluster : String
  user : Option String
deriving DecidableEq

/-- The cluster of a kubeconfig. -/
structure Cluster where
  server : String
  authorityFile : Option String
  authorityData : Option String
  insecure : Bool
deriving DecidableEq

/-- The user of a kubeconfig. -/
structure User where
  token : Option String
  tokenFile : Option String
deriving DecidableEq

/-- A kubeconfig. Names may repeat; the first counts. -/
structure Config where
  currentContext : Option String
  contexts : List (String × Context)
  clusters : List (String × Cluster)
  users : List (String × User)
deriving DecidableEq

/-- Why there is no access. -/
inductive AccessError where
  | unreadable (path : String)
  | malformed (path : String)
  | noCurrentContext (path : String)
  | contextNotFound (name : String)
  | clusterNotFound (name : String)
  | invalidAuthorityData
  | authorityUnreadable (file : String)
  | tokenUnreadable (file : String)
  | notInCluster
deriving DecidableEq

def AccessError.message : AccessError → String
  | unreadable path => "Failed to read kubeconfig " ++ path
  | malformed path => "Failed to parse kubeconfig " ++ path
  | noCurrentContext path => "kubeconfig " ++ path ++ " has no current-context"
  | contextNotFound name => "context " ++ name ++ " not found in kubeconfig"
  | clusterNotFound name => "cluster " ++ name ++ " not found in kubeconfig"
  | invalidAuthorityData => "invalid certificate-authority-data in kubeconfig"
  | authorityUnreadable file => "Failed to read certificate authority " ++ file
  | tokenUnreadable file => "Failed to read token file " ++ file
  | notInCluster => "not running in a cluster: KUBERNETES_SERVICE_HOST is unset"

/-- The fields of a mapping, of which none of `names` may be repeated. -/
def fieldsOf (names : List String) (n : Node) : Option (List (String × Node)) := do
  let fields ← n.fields?
  if names.all fun name => fields.countP (·.1 == name) ≤ 1 then some fields else none

/-- A field that must be there. -/
def required {α : Type} (fields : List (String × Node)) (name : String) (read : Node → Option α) : Option α :=
  (fields.lookup name).bind read

/-- A field that may be missing. -/
def optional {α : Type} (fields : List (String × Node)) (name : String) (fallback : α)
    (read : Node → Option α) : Option α :=
  match fields.lookup name with
  | some n => read n
  | none => some fallback

def contextOf (n : Node) : Option Context := do
  let fields ← fieldsOf ["cluster", "user"] n
  return { cluster := ← required fields "cluster" Node.text?,
           user := ← optional fields "user" none Node.optionalText? }

def clusterOf (n : Node) : Option Cluster := do
  let fields ← fieldsOf
    ["server", "certificate-authority", "certificate-authority-data", "insecure-skip-tls-verify"] n
  return { server := ← required fields "server" Node.text?,
           authorityFile := ← optional fields "certificate-authority" none Node.optionalText?,
           authorityData := ← optional fields "certificate-authority-data" none Node.optionalText?,
           insecure := ← optional fields "insecure-skip-tls-verify" false Node.bool? }

def userOf (n : Node) : Option User := do
  let fields ← fieldsOf ["token", "tokenFile"] n
  return { token := ← optional fields "token" none Node.optionalText?,
           tokenFile := ← optional fields "tokenFile" none Node.optionalText? }

/-- A list of things with names, each under the field `field`. -/
def namedOf {α : Type} (field : String) (read : Node → Option α) (n : Node) : Option (List (String × α)) := do
  (← n.items?).mapM fun item => do
    let fields ← fieldsOf ["name", field] item
    return (← required fields "name" Node.text?, ← required fields field read)

/-- The kubeconfig that a document is. -/
def configOf (n : Node) : Option Config := do
  let fields ← fieldsOf ["current-context", "contexts", "clusters", "users"] n
  return { currentContext := ← optional fields "current-context" none Node.optionalText?,
           contexts := ← optional fields "contexts" [] (namedOf "context" contextOf),
           clusters := ← optional fields "clusters" [] (namedOf "cluster" clusterOf),
           users := ← optional fields "users" [] (namedOf "user" userOf) }

/-- The certificate authority of a cluster. Data given directly goes before a file. -/
def authorityOf (tree : Files.Tree) (base : String) (c : Cluster) : Except AccessError (Option Payload) :=
  match c.authorityData, c.authorityFile with
  | some data, _ =>
    match Base64.decode? (Text.trim data.toList) with
    | some p => .ok (some p)
    | none => .error .invalidAuthorityData
  | none, some file =>
    match tree.read (Files.join base file) with
    | .ok p => .ok (some p)
    | .error _ => .error (.authorityUnreadable file)
  | none, none => .ok none

/-- The token of a user. A token given directly goes before a file, whose text is trimmed. -/
def tokenOf (tree : Files.Tree) (base : String) : Option User → Except AccessError (Option String)
  | some { token := some token, .. } => .ok (some token)
  | some { token := none, tokenFile := some file } =>
    match tree.readText (Files.join base file) with
    | .ok s => .ok (some (Text.trimmed s))
    | .error _ => .error (.tokenUnreadable file)
  | _ => .ok none

/-- The access that the current context of a kubeconfig gives. Files are taken from `base`. -/
def Config.access (c : Config) (tree : Files.Tree) (path base : String) : Except AccessError Access := do
  let name ← match c.currentContext.filter (· != "") with
    | some name => .ok name
    | none => .error (.noCurrentContext path)
  let context ← match c.contexts.lookup name with
    | some context => .ok context
    | none => .error (.contextNotFound name)
  let cluster ← match c.clusters.lookup context.cluster with
    | some cluster => .ok cluster
    | none => .error (.clusterNotFound context.cluster)
  let user := context.user.bind fun n => c.users.lookup n
  let authority ← authorityOf tree base cluster
  let token ← tokenOf tree base user
  return { apiServer := cluster.server, token, authority, insecure := cluster.insecure }

/-- The access that a kubeconfig file gives. Relative paths in it are taken from its directory. -/
def accessOfFile (tree : Files.Tree) (path : String) : Except AccessError Access :=
  match tree.readText path with
  | .error _ => .error (.unreadable path)
  | .ok text =>
    match (document? text).bind configOf with
    | none => .error (.malformed path)
    | some config => config.access tree path ((Files.parent? path).getD ".")

/-- Where a pod finds the token and the certificate authority of its service account. -/
def accountDirectory : String := "/var/run/secrets/kubernetes.io/serviceaccount"

/-- Environment variables by name. -/
abbrev Environment := List (String × String)

/-- The access of a pod. A server and a token in the environment go before those of the pod. -/
def accessInCluster (tree : Files.Tree) (env : Environment) : Except AccessError Access := do
  let apiServer ← match env.lookup "KUBE_API_SERVER" with
    | some server => .ok server
    | none =>
      match env.lookup "KUBERNETES_SERVICE_HOST" with
      | none => .error .notInCluster
      | some host =>
        let port := (env.lookup "KUBERNETES_SERVICE_PORT").getD "443"
        let host := if ':' ∈ host.toList then "[" ++ host ++ "]" else host
        .ok ("https://" ++ host ++ ":" ++ port)
  let token := match env.lookup "KUBE_TOKEN" with
    | some token => some token
    | none => (tree.readText (Files.join accountDirectory "token")).toOption.map Text.trimmed
  return { apiServer, token, authority := (tree.read (Files.join accountDirectory "ca.crt")).toOption }

/-- The access by a kubeconfig that the environment names, or else that of a pod. -/
def access (tree : Files.Tree) (env : Environment) : Except AccessError Access :=
  match (env.lookup "KUBE_CONFIG_PATH").filter (· != "") with
  | some path => accessOfFile tree path
  | none => accessInCluster tree env

end Lookout.Kube
