import Lookout.Probe.Endpoints
import Lookout.Proofs.Url.Extended

/-!
# What the endpoints probe asks for

A target names a service, and the names are put into the URL of its endpoints as they are. That URL addresses these
endpoints, and nothing else, exactly if the names are plain: a backslash or a dot is resolved as a part of the path, a
question mark or hash ends it, an escape is decoded, and tabs, line breaks and blanks at the end are left out.
-/

namespace Lookout.Probe
set_option autoImplicit false
open Text Url

/-- A name that means nothing but itself in the path of a URL. -/
structure PlainName (name : String) : Prop where
  chars : ∀ c ∈ name.toList, c ∉ ['\\', '?', '#', '\t', '\n', '\r']
  spelled : ¬ HasEscape name.toList
  undotted : name ≠ "." ∧ name ≠ ".."

/-- A service whose names are plain. Nothing follows the second name, so that there must not be a blank at its end. -/
structure Service.Plain (s : Service) : Prop where
  namespaceName : PlainName s.namespaceName
  name : PlainName s.name
  visible : ∀ c ∈ s.name.toList.getLast?, 0x20 < c.toNat

/-- The segments that lead to the endpoints of a service. -/
def endpointsSegments (namespaceName name : List Char) : List (List Char) :=
  ["api".toList, "v1".toList, "namespaces".toList, namespaceName, "endpoints".toList, name]

/-- The URL addresses the endpoints of a service on a server: there is no query, and its path is `base` and the segments
that lead there, with two names that are decoded to those of the service. -/
structure Addresses (server : Url) (base : List Char) (s : Service) (url : Url) : Prop where
  scheme : url.scheme = server.scheme
  authority : url.authority = server.authority
  query : url.query = none
  path : ∃ x y, '/' ∉ x ∧ '/' ∉ y ∧ url.path = base ++ (endpointsSegments x y).flatMap ('/' :: ·) ∧
    percentDecode x = Payload.ofText s.namespaceName ∧ percentDecode y = Payload.ofText s.name

/-- What the URL of the endpoints of a service has behind the slash that follows the server. -/
def Service.tail (s : Service) : List Char :=
  "api/v1/namespaces/".toList ++ s.namespaceName.toList ++ "/endpoints/".toList ++ s.name.toList

theorem Service.tail_eq (s : Service) : s.tail =
    "api/v1/namespaces/".toList ++ s.namespaceName.toList ++ "/endpoints/".toList ++ s.name.toList := rfl

variable {s : Service} {target : String} {url server : Url} {before : List (List Char)} {x y : List Char}

/-! ### Targets -/

/-- The names of a target are not empty and have no slashes. -/
theorem Service.of_ofTarget? (named : Service.ofTarget? target = some s) :
    (s.namespaceName.toList ≠ [] ∧ '/' ∉ s.namespaceName.toList) ∧ s.name.toList ≠ [] ∧ '/' ∉ s.name.toList := by
  unfold Service.ofTarget? at named
  split at named
  · next a b cut =>
    split at named
    · cases named
    · next filled =>
      obtain ⟨-, parts, -⟩ := splitAt_eq_iff.1 cut
      obtain rfl := Option.some.inj named
      simp only [Bool.or_eq_true, List.isEmpty_iff, not_or] at filled
      simp only [String.toList_ofList]
      exact ⟨⟨filled.1, parts a (by simp)⟩, filled.2, parts b (by simp)⟩
  · cases named

theorem Service.slash_tail (s : Service) :
    '/' :: s.tail = (endpointsSegments s.namespaceName.toList s.name.toList).flatMap ('/' :: ·) := by
  have joined : ∀ p q r e a b : List Char,
      '/' :: (p ++ '/' :: (q ++ '/' :: (r ++ ['/'])) ++ a ++ '/' :: (e ++ ['/']) ++ b) =
        [p, q, r, a, e, b].flatMap ('/' :: ·) := by
    simp
  exact joined "api".toList "v1".toList "namespaces".toList "endpoints".toList s.namespaceName.toList s.name.toList

theorem Service.getLast?_tail (nonempty : s.name.toList ≠ []) : s.tail.getLast? = s.name.toList.getLast? :=
  List.getLast?_append_of_ne_nil _ nonempty

/-- What holds of the fixed characters holds of all if it holds of those of the names. -/
theorem Service.forall_mem_tail {p : Char → Prop} (fixed : ∀ c ∈ "/apiv1namespacesendpoints".toList, p c) :
    (∀ c ∈ s.tail, p c) ↔ (∀ c ∈ s.namespaceName.toList, p c) ∧ ∀ c ∈ s.name.toList, p c := by
  have first : ∀ c ∈ "api/v1/namespaces/".toList, p c :=
    fun c mem => fixed c ((by decide : "api/v1/namespaces/".toList ⊆ "/apiv1namespacesendpoints".toList) mem)
  have second : ∀ c ∈ "/endpoints/".toList, p c :=
    fun c mem => fixed c ((by decide : "/endpoints/".toList ⊆ "/apiv1namespacesendpoints".toList) mem)
  simp only [Service.tail_eq, List.forall_mem_append]
  exact ⟨fun all => ⟨all.1.1.2, all.2⟩, fun both => ⟨⟨⟨first, both.1⟩, second⟩, both.2⟩⟩

/-- Five slashes and the backslashes of the names cut what is asked for into segments. -/
theorem Service.length_splitSegments_tail (s : Service) : (splitSegments true s.tail).length =
    6 + s.namespaceName.toList.countP (isSlash true) + s.name.toList.countP (isSlash true) := by
  have first : "api/v1/namespaces/".toList.countP (isSlash true) = 3 := rfl
  have second : "/endpoints/".toList.countP (isSlash true) = 2 := rfl
  rw [length_splitSegments, Service.tail_eq]
  simp only [List.countP_append, first, second]
  omega

/-- There is no separator in the names of the service. -/
def Service.Undivided (s : Service) : Prop :=
  (∀ c ∈ s.namespaceName.toList, isSlash true c = false) ∧ ∀ c ∈ s.name.toList, isSlash true c = false

theorem Service.undivided_of_length (six : (splitSegments true s.tail).length = 6) : s.Undivided := by
  rw [length_splitSegments_tail] at six
  have first : s.namespaceName.toList.countP (isSlash true) = 0 := by omega
  have second : s.name.toList.countP (isSlash true) = 0 := by omega
  rw [List.countP_eq_zero] at first second
  exact ⟨fun c mem => by simpa using first c mem, fun c mem => by simpa using second c mem⟩

theorem Service.Undivided.segments (undivided : s.Undivided) :
    splitSegments true s.tail = endpointsSegments s.namespaceName.toList s.name.toList := by
  have joined := s.slash_tail
  rw [endpointsSegments, List.flatMap_cons, List.cons_append] at joined
  rw [(List.cons.inj joined).2, endpointsSegments]
  refine splitSegments_joined (List.all_iff_forall_prop.1 rfl) fun q mem => ?_
  simp only [List.mem_cons, List.not_mem_nil, or_false] at mem
  rcases mem with rfl | rfl | rfl | rfl | rfl
  · exact List.all_iff_forall_prop.1 rfl
  · exact List.all_iff_forall_prop.1 rfl
  · exact undivided.1
  · exact List.all_iff_forall_prop.1 rfl
  · exact undivided.2

/-- The segments have as many bytes as those that they are decoded to. -/
theorem weight_endpointsSegments (first : percentDecode x = Payload.ofText s.namespaceName)
    (second : percentDecode y = Payload.ofText s.name) :
    weight (endpointsSegments x y) = load (endpointsSegments s.namespaceName.toList s.name.toList) := by
  have words : ∀ w ∈ ["api".toList, "v1".toList, "namespaces".toList, "endpoints".toList],
      (percentDecode w).length = size w := by
    decide
  rw [Payload.ofText_eq_flatMap] at first second
  simp only [endpointsSegments, weight_cons, load_cons, first, second, words "api".toList (by simp),
    words "v1".toList (by simp), words "namespaces".toList (by simp), words "endpoints".toList (by simp)]
  rfl

/-! ### Plain names -/

theorem plainName_iff {n : String} :
    PlainName n ↔ (∀ c ∈ n.toList, c ∉ ['\\', '?', '#', '\t', '\n', '\r']) ∧ Lasting n.toList := by
  have dots : ¬ HasEscape n.toList → (Ordinary n.toList ↔ n ≠ "." ∧ n ≠ "..") := by
    intro spelled
    rw [ordinary_iff spelled, Ne, Ne, Ne, Ne, ← String.toList_inj, ← String.toList_inj]
    rfl
  constructor
  · rintro ⟨chars, spelled, undotted⟩
    exact ⟨chars, (dots spelled).2 undotted, spelled⟩
  · rintro ⟨chars, ordinary, spelled⟩
    exact ⟨chars, spelled, (dots spelled).1 ordinary⟩

theorem plain_char_iff {c : Char} : c ∉ ['\\', '?', '#', '\t', '\n', '\r'] ∧ c ≠ '/' ↔
    isKept c = true ∧ endsPath c = false ∧ isSlash true c = false := by
  simp only [isKept, endsPath, isSlash, List.mem_cons, List.not_mem_nil, or_false, not_or, Bool.not_eq_true',
    Bool.or_eq_false_iff, Bool.true_and, beq_eq_false_iff_ne]
  tauto

theorem forall_plain_char_iff {n : List Char} (noSlash : '/' ∉ n) :
    (∀ c ∈ n, c ∉ ['\\', '?', '#', '\t', '\n', '\r']) ↔
      (∀ c ∈ n, isKept c = true) ∧ (∀ c ∈ n, endsPath c = false) ∧ ∀ c ∈ n, isSlash true c = false := by
  rw [← forall₂_and, ← forall₂_and]
  refine forall₂_congr fun c mem => ?_
  have other : c ≠ '/' := fun e => noSlash (e ▸ mem)
  rw [← plain_char_iff]
  exact (and_iff_left other).symm

/-- The names of a service are plain if nothing of what is asked for is left out, ends the path or is resolved. -/
theorem Service.plain_iff (named : Service.ofTarget? target = some s) : s.Plain ↔
    cleanedEnd s.tail = s.tail ∧ (∀ c ∈ s.tail, endsPath c = false) ∧ s.Undivided ∧
      Lasting s.namespaceName.toList ∧ Lasting s.name.toList := by
  obtain ⟨⟨-, noSlash⟩, nonempty, noSlash'⟩ := Service.of_ofTarget? named
  have parts : s.Plain ↔ PlainName s.namespaceName ∧ PlainName s.name ∧ ∀ c ∈ s.name.toList.getLast?, 0x20 < c.toNat :=
    ⟨fun plain => ⟨plain.1, plain.2, plain.3⟩, fun plain => ⟨plain.1, plain.2.1, plain.2.2⟩⟩
  rw [parts, plainName_iff, plainName_iff, forall_plain_char_iff noSlash, forall_plain_char_iff noSlash',
    cleanedEnd_eq_self_iff, getLast?_tail nonempty, forall_mem_tail (List.all_iff_forall_prop.1 rfl),
    forall_mem_tail (List.all_iff_forall_prop.1 rfl), Undivided]
  constructor
  · rintro ⟨⟨⟨kept, path, whole⟩, lasting⟩, ⟨⟨kept', path', whole'⟩, lasting'⟩, visible⟩
    exact ⟨⟨⟨kept, kept'⟩, visible⟩, ⟨path, path'⟩, ⟨whole, whole'⟩, lasting, lasting'⟩
  · rintro ⟨⟨⟨kept, kept'⟩, visible⟩, ⟨path, path'⟩, ⟨whole, whole'⟩, lasting, lasting'⟩
    exact ⟨⟨⟨kept, path, whole⟩, lasting⟩, ⟨⟨kept', path', whole'⟩, lasting'⟩, visible⟩

/-! ### What is asked for -/

theorem slash_not_mem_endpointsSegments (noSlash : '/' ∉ x) (noSlash' : '/' ∉ y) :
    ∀ p ∈ endpointsSegments x y, '/' ∉ p := by
  intro p mem
  simp only [endpointsSegments, List.mem_cons, List.not_mem_nil, or_false] at mem
  rcases mem with rfl | rfl | rfl | rfl | rfl | rfl
  · decide
  · decide
  · decide
  · exact noSlash
  · decide
  · exact noSlash'

section
variable (unslashed : ∀ p ∈ before, '/' ∉ p)
  (path : url.path = (resolveSegments before
    (splitSegments true ((cleanedEnd s.tail).takeWhile (!endsPath ·)))).flatMap ('/' :: ·))

include path in
/-- If nothing is left out, ends the path or is resolved, the path has the segments that are asked for. -/
theorem addresses_of_lasting (scheme : url.scheme = server.scheme) (authority : url.authority = server.authority)
    (query : url.query = (readTail true ((cleanedEnd s.tail).dropWhile (!endsPath ·))).1)
    (noSlash : '/' ∉ s.namespaceName.toList) (noSlash' : '/' ∉ s.name.toList) (same : cleanedEnd s.tail = s.tail)
    (clear : ∀ c ∈ s.tail, endsPath c = false) (undivided : s.Undivided) (lasting : Lasting s.namespaceName.toList)
    (lasting' : Lasting s.name.toList) : Addresses server (before.reverse.flatMap ('/' :: ·)) s url := by
  have inside : ∀ c ∈ s.tail, (!endsPath c) = true := fun c mem => by simp [clear c mem]
  have ordinary : ∀ p ∈ endpointsSegments s.namespaceName.toList s.name.toList, Ordinary p := by
    intro p mem
    simp only [endpointsSegments, List.mem_cons, List.not_mem_nil, or_false] at mem
    rcases mem with rfl | rfl | rfl | rfl | rfl | rfl
    · exact ⟨rfl, rfl⟩
    · exact ⟨rfl, rfl⟩
    · exact ⟨rfl, rfl⟩
    · exact lasting.1
    · exact ⟨rfl, rfl⟩
    · exact lasting'.1
  rw [same, List.takeWhile_eq_self_iff.2 inside, undivided.segments, resolveSegments_ordinary ordinary,
    List.flatMap_append] at path
  rw [same, List.dropWhile_eq_nil_iff.2 inside] at query
  refine ⟨scheme, authority, query, percentEncode pathSet s.namespaceName.toList, percentEncode pathSet s.name.toList,
    slash_not_mem_percentEncode noSlash, slash_not_mem_percentEncode noSlash', path, ?_, ?_⟩
  · rw [percentDecode_percentEncode spares_pathSet, percentDecode_eq_iff.2 lasting.2, Payload.ofText_eq_flatMap]
  · rw [percentDecode_percentEncode spares_pathSet, percentDecode_eq_iff.2 lasting'.2, Payload.ofText_eq_flatMap]

include unslashed path in
/-- What the path decodes to is as long as what is asked for, so that nothing of it was lost. -/
theorem lasting_of_addresses (addresses : Addresses server (before.reverse.flatMap ('/' :: ·)) s url) :
    cleanedEnd s.tail = s.tail ∧ (∀ c ∈ s.tail, endsPath c = false) ∧ s.Undivided ∧
      Lasting s.namespaceName.toList ∧ Lasting s.name.toList := by
  obtain ⟨x, y, noSlash, noSlash', whole, first, second⟩ := addresses.path
  have within := List.takeWhile_sublist (l := cleanedEnd s.tail) (!endsPath ·)
  have counted := cleanedEnd_sublist s.tail
  generalize part : (cleanedEnd s.tail).takeWhile (!endsPath ·) = P at within path
  have resolved : resolveSegments before (splitSegments true P) = before.reverse ++ endpointsSegments x y := by
    refine segments_inj (slash_not_mem_resolveSegments unslashed fun p mem => ?_) (fun p mem => ?_) ?_
    · exact slash_not_mem_of_isSlash (isSlash_of_mem_splitSegments mem)
    · rcases List.mem_append.1 mem with front | back
      · exact unslashed p (List.mem_reverse.1 front)
      · exact slash_not_mem_endpointsSegments noSlash noSlash' p back
    · rw [← path, whole, List.flatMap_append]
  have bytes := size_flatMap (endpointsSegments s.namespaceName.toList s.name.toList)
  rw [← s.slash_tail, size_cons] at bytes
  have slash : '/'.utf8Size = 1 := rfl
  obtain ⟨bound, lasting⟩ := weight_resolveSegments before (splitSegments true P)
  rw [resolved, weight_append, weight_reverse, weight_endpointsSegments first second, load_splitSegments]
    at bound lasting
  obtain rfl : P = s.tail := eq_of_sublist_of_size (within.trans counted) (by omega)
  have same : cleanedEnd s.tail = s.tail := counted.antisymm within
  have lasting := lasting (by omega)
  have six : (splitSegments true s.tail).length = 6 := by
    rw [resolveSegments_ordinary fun p mem => (lasting p mem).1] at resolved
    simpa [endpointsSegments] using congrArg List.length (List.append_cancel_left resolved)
  have undivided := Service.undivided_of_length six
  rw [same, List.takeWhile_eq_self_iff] at part
  rw [undivided.segments] at lasting
  refine ⟨same, fun c mem => by simpa using part c mem, undivided, lasting _ ?_, lasting _ ?_⟩
  · simp [endpointsSegments]
  · simp [endpointsSegments]

include unslashed path in
/-- A URL with this path addresses the endpoints of a target exactly if its names are plain. -/
theorem addresses_iff_plain (named : Service.ofTarget? target = some s) (scheme : url.scheme = server.scheme)
    (authority : url.authority = server.authority)
    (query : url.query = (readTail true ((cleanedEnd s.tail).dropWhile (!endsPath ·))).1) :
    Addresses server (before.reverse.flatMap ('/' :: ·)) s url ↔ s.Plain := by
  obtain ⟨⟨-, noSlash⟩, -, noSlash'⟩ := Service.of_ofTarget? named
  rw [Service.plain_iff named]
  constructor
  · exact lasting_of_addresses unslashed path
  · rintro ⟨same, clear, undivided, lasting, lasting'⟩
    exact addresses_of_lasting path scheme authority query noSlash noSlash' same clear undivided lasting lasting'

end

/-! ### Requests -/

/-- The request for the endpoints of a service, given its URL. -/
def endpointsRequest (a : Kube.Access) (url : Url) : HttpRequest :=
  { url, token := a.token, authority := a.authority, insecure := a.insecure }

/-- A count depends on what comes of the one request. -/
theorem countEndpoints_congr {network network' : Network} {a : Kube.Access}
    (same : ∀ url, Url.ofText (endpointsUrl a.apiServer s) = .ok url →
      network.request (endpointsRequest a url) = network'.request (endpointsRequest a url)) :
    countEndpoints network a s = countEndpoints network' a s := by
  unfold countEndpoints
  cases read : Url.ofText (endpointsUrl a.apiServer s) with
  | error e => rfl
  | ok url =>
    have asked := same url read
    rw [endpointsRequest] at asked
    simp only [asked]

/-- No request goes to a server that is not one of the web. -/
theorem request_of_not_web {r : HttpRequest} (other : ¬ IsWeb r.url.scheme) (network network' : Network) :
    network.request r = network'.request r := by
  have unsendable : HttpRequest.isSendable r.url = false := by
    have unknown : ["http".toList, "https".toList].contains r.url.scheme = false := by
      simpa [IsWeb] using other
    rw [HttpRequest.isSendable, unknown, Bool.false_and, Bool.false_and]
  have refused : r.refusal?.isSome := by
    unfold HttpRequest.refusal?
    split
    · rfl
    · simp [unsendable]
  obtain ⟨reason, refused⟩ := Option.isSome_iff_exists.1 refused
  rw [Network.request, Network.request, refused]

/-- A server, the slashes at its end left out, in front of what is asked for. -/
theorem exists_endpointsUrl (apiServer : String) : ∃ t k, apiServer.toList = t ++ List.replicate k '/' ∧
    ∀ s, (endpointsUrl apiServer s).toList = t ++ '/' :: s.tail := by
  obtain ⟨k, slashes⟩ : ∃ k, apiServer.toList.reverse.takeWhile (· == '/') = List.replicate k '/' := by
    refine ⟨_, List.eq_replicate_iff.2 ⟨rfl, fun c mem => ?_⟩⟩
    exact eq_of_beq (List.mem_takeWhile_imp (p := (· == '/')) mem)
  refine ⟨(apiServer.toList.reverse.dropWhile (· == '/')).reverse, k, ?_, fun s => ?_⟩
  · have whole := List.takeWhile_append_dropWhile (p := (· == '/')) (l := apiServer.toList.reverse)
    rw [slashes] at whole
    simpa using (congrArg List.reverse whole).symm
  · have first : "/api/v1/namespaces/".toList = '/' :: "api/v1/namespaces/".toList := rfl
    unfold endpointsUrl
    simp only [String.toList_append, String.toList_ofList, first, Service.tail_eq, List.append_assoc, List.cons_append]

/-- **Which targets address their own endpoints**: those with plain names, whatever the server is. -/
theorem target_addresses_iff {a : Kube.Access} {server : Url} (read : Url.ofText a.apiServer = .ok server)
    (noQuery : server.query = none) (noFragment : server.fragment = none)
    (visible : ∀ c ∈ (a.apiServer.toList.filter isKept).getLast?, 0x20 < c.toNat) :
    (¬ IsWeb server.scheme → ∀ s network network', countEndpoints network a s = countEndpoints network' a s) ∧
      (IsWeb server.scheme → ∃ base slashes, server.path = base ++ slashes ∧ (∀ c ∈ slashes, c = '/') ∧
        ∀ target s, Service.ofTarget? target = some s →
          (∃ url, Url.ofText (endpointsUrl a.apiServer s) = .ok url ∧ (Addresses server base s url ↔ s.Plain)) ∧
            (s.Plain → ∀ network network' : Network,
              (∀ r, Addresses server base s r.url → network.send r = network'.send r) →
                countEndpoints network a s = countEndpoints network' a s)) := by
  obtain ⟨t, k, text, asked⟩ := exists_endpointsUrl a.apiServer
  rw [Url.ofText, text] at read
  rw [text] at visible
  constructor
  · intro other s network network'
    refine countEndpoints_congr fun url longer => request_of_not_web ?_ network network'
    rw [Url.ofText, asked] at longer
    rw [endpointsRequest, scheme_of_extended visible read longer]
    exact other
  · intro web
    obtain ⟨before, n, noSlash, path, extended⟩ := ofChars_extended visible read web noQuery noFragment
    refine ⟨before.reverse.flatMap ('/' :: ·), List.replicate n '/', ?_, fun c => List.eq_of_mem_replicate, ?_⟩
    · have slashes : (List.replicate n []).flatMap ('/' :: ·) = List.replicate n '/' := by
        rw [List.flatMap_replicate, List.flatten_replicate_singleton]
      rw [path, List.flatMap_append, slashes]
    · intro target s named
      have longer := extended s.tail
      rw [← asked, ← Url.ofText] at longer
      have plain : ∀ url, Url.ofText (endpointsUrl a.apiServer s) = .ok url →
          (Addresses server (before.reverse.flatMap ('/' :: ·)) s url ↔ s.Plain) := by
        intro url found
        have whole := Except.ok.inj (found.symm.trans longer)
        refine addresses_iff_plain noSlash ?_ named ?_ ?_ ?_
        · rw [whole]
        · rw [whole]
        · rw [whole]
        · rw [whole]
      refine ⟨⟨_, longer, plain _ longer⟩, fun named network network' agree => countEndpoints_congr fun url found => ?_⟩
      have addressed : Addresses server (before.reverse.flatMap ('/' :: ·)) s (endpointsRequest a url).url :=
        (plain url found).2 named
      rw [Network.request, Network.request, agree _ addressed]

/-- A server with a path of its own. -/
def proxied : Kube.Access where
  apiServer := "https://10.0.0.1:6443/k8s/clusters/c-1/"

/-- Names with a blank, a percent sign and a letter outside ASCII are addressed. -/
theorem spelled_names_addressed :
    Service.ofTarget? "team a/100%-wörter" = some ⟨"team a", "100%-wörter"⟩ ∧
      ∃ server base slashes url, Url.ofText proxied.apiServer = .ok server ∧ server.path = base ++ slashes ∧
        (∀ c ∈ slashes, c = '/') ∧ Url.ofText (endpointsUrl proxied.apiServer ⟨"team a", "100%-wörter"⟩) = .ok url ∧
        Addresses server base ⟨"team a", "100%-wörter"⟩ url := by
  have named : Service.ofTarget? "team a/100%-wörter" = some ⟨"team a", "100%-wörter"⟩ := by decide +kernel
  have read : Url.ofText proxied.apiServer =
      .ok { scheme := "https".toList, authority := some ⟨[], [], .address (.v4 #v[10, 0, 0, 1]), some 6443⟩
            path := "/k8s/clusters/c-1/".toList, query := none, fragment := none } := by
    decide +kernel
  have first : PlainName "team a" :=
    ⟨List.all_iff_forall_prop.1 rfl, percentDecode_eq_iff.1 (by decide +kernel), by decide⟩
  have second : PlainName "100%-wörter" :=
    ⟨List.all_iff_forall_prop.1 rfl, percentDecode_eq_iff.1 (by decide +kernel), by decide⟩
  have plain : Service.Plain ⟨"team a", "100%-wörter"⟩ := ⟨first, second, by simp⟩
  have last : (proxied.apiServer.toList.filter isKept).getLast? = some '/' := by decide +kernel
  obtain ⟨base, slashes, path, only, asked⟩ :=
    (target_addresses_iff read rfl rfl (by simp [last])).2 (.inr rfl)
  obtain ⟨⟨url, found, addressed⟩, -⟩ := asked _ _ named
  exact ⟨named, _, base, slashes, url, read, path, only, found, addressed.2 plain⟩

/-- A target with a question mark asks for another service, and with a query. -/
theorem query_in_target :
    Service.ofTarget? "default/web?watch=true" = some ⟨"default", "web?watch=true"⟩ ∧
      (Url.ofText (endpointsUrl "http://127.0.0.1:1" ⟨"default", "web?watch=true"⟩)).map
          (fun url => (url.path, url.query)) =
        .ok ("/api/v1/namespaces/default/endpoints/web".toList, some "watch=true".toList) := by
  decide +kernel

end Lookout.Probe
