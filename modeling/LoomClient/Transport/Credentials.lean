import LoomClient.Lib.Base64
import LoomClient.Lib.Dict
import LoomClient.Transport.Failures

namespace LoomClient.Transport.Credentials
open Lib Lib.Percent

abbrev Headers := Dict String (List Char)

-- A credential. What the code writes into a header is text that UTF-8 can encode.
inductive Auth where
  | basic (username password : List Char)
  | bearer (token label : List Char)
  | none
  | session (cookieValue cookieName : List Char)
  deriving DecidableEq

structure BoxIngress where
  token : List Char
  port : Option Nat
  pathPrefix : List Char
  deriving DecidableEq

structure LoomConfig where
  host : List Char
  auth : Auth
  port : Nat
  tls : Bool
  basePath : List Char
  extraHeaders : Headers
  userAgent : List Char
  boxIngress : Option BoxIngress
  sole : boxIngress.isSome → auth = .none

def defaultHttpPort : Nat := 8119
def defaultHttpsPort : Nat := 8119
def defaultBoxHttpPort : Nat := 80
def defaultBoxHttpsPort : Nat := 443

-- `__post_init__`: the default of the port, and a ValueError for a credential beside
-- the box token.
def configure (host : List Char) (auth : Auth) (port : Option Nat) (tls : Bool) (basePath : List Char) (extraHeaders : Headers)
    (userAgent : List Char) (boxIngress : Option BoxIngress) : Except ExceptionClass LoomConfig :=
  let port := port.getD (if tls then defaultHttpsPort else defaultHttpPort)
  if sole : boxIngress.isSome → auth = .none then
    .ok ⟨host,auth,port,tls,basePath,extraHeaders,userAgent,boxIngress,sole⟩
  else .error .valueError

section Headers

def basicValue (username password : List Char) : List Char :=
  "Basic ".toList ++ Base64.encode (utf8 (username ++ ':' :: password))

def bearerValue (token : List Char) : List Char := "Bearer ".toList ++ token

def cookiePair (name value : List Char) : List Char := name ++ '=' :: value

def joinCookies (existing pair : List Char) : List Char := if existing = [] then pair else existing ++ "; ".toList ++ pair

def Auth.applyToHeaders (headers : Headers) : Auth → Headers
  | .basic username password => headers.set "Authorization" (basicValue username password)
  | .bearer token _ => headers.set "Authorization" (bearerValue token)
  | .none => headers
  | .session value name => headers.set "Cookie" (joinCookies ((headers.get? "Cookie").getD []) (cookiePair name value))

def BoxIngress.applyToHeaders (b : BoxIngress) (headers : Headers) : Headers :=
  headers.set "Authorization" (bearerValue b.token)

def update (headers : Headers) (more : Headers) : Headers := more.entries.foldl (fun h e => h.set e.1 e.2) headers

-- What both planes put last: the credential, then the token that the gate reads.
def LoomConfig.sign (c : LoomConfig) (headers : Headers) : Headers :=
  let headers := c.auth.applyToHeaders headers
  match c.boxIngress with
  | some box => box.applyToHeaders headers
  | none => headers

def LoomConfig.buildHeaders (c : LoomConfig) (extra : Option Headers) : Headers :=
  let headers := update (Dict.ofList [("Accept","application/json".toList),("User-Agent",c.userAgent)]) c.extraHeaders
  let headers := match extra with
    | some extra => update headers extra
    | none => headers
  c.sign headers

-- `request_bytes`: `merged.setdefault("Accept",...)`
def LoomConfig.bytesHeaders (c : LoomConfig) (extra : Option Headers) : Headers :=
  let merged := c.buildHeaders extra
  if "Accept" ∈ merged then merged else merged.set "Accept" "application/octet-stream".toList

-- `_connect_and_read`
def LoomConfig.upgradeHeaders (c : LoomConfig) : Headers := c.sign (Dict.ofList [("User-Agent",c.userAgent)])

-- How a receiver takes a Basic credential apart: at the first colon.
def readBasic (value : List Char) : Option (List Char × List Char) := do
  let token ← value.dropPrefix? "Basic ".toList
  let bytes ← Base64.decode token
  let pair ← ofUtf8 bytes
  match pair.dropWhile (· != ':') with
  | _ :: password => some (pair.takeWhile (· != ':'),password)
  | [] => none

def LoomConfig.credential (c : LoomConfig) : Option (List Char) := match c.boxIngress,c.auth with
  | some box,_ => some (bearerValue box.token)
  | none,.basic username password => some (basicValue username password)
  | none,.bearer token _ => some (bearerValue token)
  | none,_ => none

def LoomConfig.plain (c : LoomConfig) (extra : Option Headers) (name : String) : Option (List Char) :=
  ((extra.getD .empty).get? name).or ((c.extraHeaders.get? name).or
    ((Dict.ofList [("Accept","application/json".toList),("User-Agent",c.userAgent)]).get? name))

def LoomConfig.cookie (c : LoomConfig) : Option (List Char) := match c.auth with
  | .session value name => some (cookiePair name value)
  | _ => none

end Headers

section Basic

theorem split_colon (t rest : List Char) (outside : ':' ∉ t) :
    (t ++ ':' :: rest).takeWhile (· != ':') = t ∧ (t ++ ':' :: rest).dropWhile (· != ':') = ':' :: rest := by
  have inside : ∀ c ∈ t, (c != ':') = true := by
    intro c member
    simpa using fun same : c = ':' => outside (same ▸ member)
  constructor
  · rw [List.takeWhile_append_of_pos inside]
    simp
  · rw [List.dropWhile_append_of_pos inside]
    simp

theorem colon_split (dropped : t.dropWhile (· != ':') = c :: rest) :
    t = t.takeWhile (· != ':') ++ ':' :: rest ∧ ':' ∉ t.takeWhile (· != ':') := by
  have stopped : c = ':' := by
    have filled : t.dropWhile (· != ':') ≠ [] := by simp [dropped]
    have head := List.head_dropWhile_not (· != ':') filled
    simpa [dropped] using head
  subst stopped
  constructor
  · rw [← dropped]
    exact List.takeWhile_append_dropWhile.symm
  · intro member
    simpa using List.all_eq_true.mp List.all_takeWhile _ member

theorem read_basic_iff (value username password : List Char) :
    readBasic value = some (username,password) ↔ value = basicValue username password ∧ ':' ∉ username := by
  constructor
  · intro read
    obtain ⟨token,stripped,next⟩ := Option.bind_eq_some_iff.mp read
    obtain ⟨bytes,decoded,last⟩ := Option.bind_eq_some_iff.mp next
    obtain ⟨pair,written,split⟩ := Option.bind_eq_some_iff.mp last
    obtain ⟨front,rfl,same⟩ := List.dropPrefix?_eq_some_iff.mp stripped
    have same := eq_of_beq same
    subst same
    cases dropped : pair.dropWhile (· != ':') with
    | nil => simp [dropped] at split
    | cons c rest =>
      obtain ⟨whole,outside⟩ := colon_split dropped
      simp only [dropped,Option.some.injEq,Prod.mk.injEq] at split
      obtain ⟨rfl,rfl⟩ := split
      have same : utf8 (pair.takeWhile (· != ':') ++ ':' :: rest) = bytes := whole ▸ utf8_of_utf8 written
      have again : Base64.encode (utf8 (pair.takeWhile (· != ':') ++ ':' :: rest)) = token :=
        (congrArg _ same).trans (Base64.encode_decode decoded)
      exact ⟨congrArg _ again.symm,outside⟩
  · rintro ⟨rfl,outside⟩
    obtain ⟨taken,dropped⟩ := split_colon username password outside
    have stripped : List.dropPrefix? (basicValue username password) "Basic ".toList =
        some (Base64.encode (utf8 (username ++ ':' :: password))) :=
      List.dropPrefix?_append_of_beq _ (beq_self_eq_true _)
    simp only [readBasic,stripped,Base64.decode_encode,of_utf8_utf8,Option.bind_eq_bind,Option.bind_some,dropped,taken]

end Basic

section Carried
variable {c : LoomConfig} {headers : Headers}

theorem get_update (headers more : Headers) (name : String) :
    (update headers more).get? name = (more.get? name).or (headers.get? name) := by
  obtain ⟨entries,distinct⟩ := more
  unfold update
  simp only [Dict.get?]
  induction entries generalizing headers with
  | nil => rfl
  | cons e rest ih =>
    obtain ⟨key,value⟩ := e
    rw [List.map_cons,List.nodup_cons] at distinct
    rw [List.foldl_cons]
    rw [ih (headers.set key value) distinct.2]
    have known := Dict.get?_set headers key value name
    simp only [Dict.get?] at known
    rw [known,Dict.lookup_pair]
    by_cases same : name = key
    · subst same
      have absent : rest.lookup name = none := by
        rw [List.lookup_eq_none_iff]
        intro entry member
        simpa using fun equal : name = entry.1 => distinct.1 (List.mem_map.mpr ⟨entry,member,equal.symm⟩)
      simp [absent]
    · simp [same]

theorem sign_get (c : LoomConfig) (headers : Headers) (name : String) :
    (c.sign headers).get? name =
      if name = "Authorization" then c.credential.or (headers.get? name)
      else if name = "Cookie" then match c.cookie with
        | some pair => some (joinCookies ((headers.get? name).getD []) pair)
        | none => headers.get? name
      else headers.get? name := by
  obtain ⟨host,auth,port,tls,basePath,extraHeaders,userAgent,boxIngress,sole⟩ := c
  cases boxIngress with
  | some box =>
    have none : auth = .none := sole rfl
    subst none
    simp only [LoomConfig.sign,BoxIngress.applyToHeaders,Auth.applyToHeaders,Dict.get?_set,LoomConfig.credential,
      LoomConfig.cookie,Option.some_or]
    split
    · rfl
    · split <;> rfl
  | none =>
    cases auth with
    | basic username password =>
      simp only [LoomConfig.sign,Auth.applyToHeaders,Dict.get?_set,LoomConfig.credential,LoomConfig.cookie,Option.some_or]
      split
      · rfl
      · split <;> rfl
    | bearer token label =>
      simp only [LoomConfig.sign,Auth.applyToHeaders,Dict.get?_set,LoomConfig.credential,LoomConfig.cookie,Option.some_or]
      split
      · rfl
      · split <;> rfl
    | none => simp [LoomConfig.sign,Auth.applyToHeaders,LoomConfig.credential,LoomConfig.cookie]
    | session value key =>
      simp only [LoomConfig.sign,Auth.applyToHeaders,Dict.get?_set,LoomConfig.credential,LoomConfig.cookie,Option.none_or]
      by_cases authorization : name = "Authorization"
      · subst authorization
        simp
      · by_cases cookie : name = "Cookie"
        · subst cookie
          simp
        · simp [authorization,cookie]

theorem build_plain (c : LoomConfig) (extra : Option Headers) : ∃ headers : Headers, c.buildHeaders extra = c.sign headers ∧
    ∀ name, headers.get? name = c.plain extra name := by
  cases extra with
  | none =>
    refine ⟨_,rfl,fun name => ?_⟩
    simp [LoomConfig.plain,get_update]
  | some extra =>
    refine ⟨_,rfl,fun name => ?_⟩
    simp [LoomConfig.plain,get_update]

structure Carried (c : LoomConfig) (extra : Option Headers) : Prop where
  request : (c.buildHeaders extra).get? "Authorization" = c.credential.or (c.plain extra "Authorization")
  upgrade : c.upgradeHeaders.get? "Authorization" = c.credential
  requestCookie : (c.buildHeaders extra).get? "Cookie" = match c.cookie with
    | some pair => some (joinCookies ((c.plain extra "Cookie").getD []) pair)
    | none => c.plain extra "Cookie"
  upgradeCookie : c.upgradeHeaders.get? "Cookie" = c.cookie
  requestOther : ∀ name, name ≠ "Authorization" → name ≠ "Cookie" → (c.buildHeaders extra).get? name = c.plain extra name
  upgradeOther : ∀ name, name ≠ "Authorization" → name ≠ "Cookie" →
    c.upgradeHeaders.get? name = if name = "User-Agent" then some c.userAgent else none
  bytes : c.bytesHeaders extra = c.buildHeaders extra

theorem agent_get (agent : List Char) (name : String) :
    (Dict.ofList [("User-Agent",agent)]).get? name = if name = "User-Agent" then some agent else none := by
  show ((Dict.empty.set "User-Agent" agent : Headers)).get? name = _
  rw [Dict.get?_set]
  rfl

-- Every request accepts something, so a download never gets a default of its own.
theorem build_accepts (c : LoomConfig) (extra : Option Headers) : "Accept" ∈ c.buildHeaders extra := by
  obtain ⟨headers,same,plain⟩ := build_plain c extra
  rw [same,Dict.mem_iff_get?,sign_get,if_neg (by decide),if_neg (by decide),plain]
  have given : (Dict.ofList [("Accept","application/json".toList),("User-Agent",c.userAgent)]).get? "Accept" =
      some "application/json".toList := by
    show ((Dict.empty.set "Accept" "application/json".toList : Headers).set "User-Agent" c.userAgent).get? "Accept" = _
    rw [Dict.get?_set,if_neg (by decide),Dict.get?_set_self]
  rw [LoomConfig.plain,given]
  cases (extra.getD .empty).get? "Accept" with
  | some value => exact ⟨value,rfl⟩
  | none =>
    cases c.extraHeaders.get? "Accept" with
    | some value => exact ⟨value,rfl⟩
    | none => exact ⟨_,rfl⟩

theorem credential_carried (c : LoomConfig) (extra : Option Headers) : Carried c extra := by
  obtain ⟨headers,same,plain⟩ := build_plain c extra
  have upgraded := sign_get c (Dict.ofList [("User-Agent",c.userAgent)])
  refine ⟨?_,?_,?_,?_,?_,?_,?_⟩
  · rw [same,sign_get,if_pos rfl,plain]
  · rw [LoomConfig.upgradeHeaders,upgraded,if_pos rfl,agent_get,if_neg (by decide),Option.or_none]
  · rw [same,sign_get,if_neg (by decide),if_pos rfl,plain]
  · rw [LoomConfig.upgradeHeaders,upgraded,if_neg (by decide),if_pos rfl,agent_get,if_neg (by decide)]
    cases c.cookie <;> rfl
  · intro name authorization cookie
    rw [same,sign_get,if_neg authorization,if_neg cookie,plain]
  · intro name authorization cookie
    rw [LoomConfig.upgradeHeaders,upgraded,if_neg authorization,if_neg cookie,agent_get]
  · exact if_pos (build_accepts c extra)

end Carried

section Listener

structure Url where
  scheme : List Char
  host : List Char
  port : Nat
  target : List Char
  deriving DecidableEq

-- `rstrip("/")`
def rstripSlash (t : List Char) : List Char := (t.reverse.dropWhile (· == '/')).reverse

def LoomConfig.listenerPort (c : LoomConfig) : Nat := match c.boxIngress with
  | none => c.port
  | some box => box.port.getD (if c.tls then defaultBoxHttpsPort else defaultBoxHttpPort)

def LoomConfig.authority (c : LoomConfig) : List Char := c.host ++ ':' :: Nat.toDigits 10 c.listenerPort

def LoomConfig.ingressPrefix (c : LoomConfig) : List Char := match c.boxIngress with
  | none => []
  | some box => rstripSlash box.pathPrefix

def LoomConfig.httpScheme (c : LoomConfig) : List Char := (if c.tls then "https" else "http").toList
def LoomConfig.wsScheme (c : LoomConfig) : List Char := (if c.tls then "wss" else "ws").toList

def LoomConfig.httpBaseUrl (c : LoomConfig) : List Char :=
  c.httpScheme ++ "://".toList ++ c.authority ++ c.ingressPrefix ++ c.basePath

def LoomConfig.wsUrl (c : LoomConfig) : List Char :=
  c.wsScheme ++ "://".toList ++ c.authority ++ c.ingressPrefix ++ c.basePath ++ "/events".toList

def LoomConfig.createCentralUrl (c : LoomConfig) : List Char :=
  c.httpScheme ++ "://".toList ++ c.authority ++ c.ingressPrefix

-- A character of an authority, which ends at the path, the query or the fragment.
def ofAuthority (c : Char) : Bool := c != '/' && c != '?' && c != '#'

def readAuthority (t : List Char) : Option (List Char × Nat) :=
  let digits := (t.reverse.takeWhile (· != ':')).reverse
  match t.reverse.dropWhile (· != ':') with
  | _ :: host => if digits ≠ [] ∧ digits.all Char.isDigit then some (host.reverse,Nat.ofDigitChars 10 digits 0) else none
  | [] => none

def readUrl (t : List Char) : Option Url := do
  let rest ← (t.dropWhile (· != ':')).dropPrefix? "://".toList
  let (host,port) ← readAuthority (rest.takeWhile ofAuthority)
  return ⟨t.takeWhile (· != ':'),host,port,rest.dropWhile ofAuthority⟩

def Rooted (t : List Char) : Prop := ∀ c ∈ t.head?, ofAuthority c = false

theorem take_inside (t rest : List Char) (inside : ∀ c ∈ t, ofAuthority c = true) (rooted : Rooted rest) :
    (t ++ rest).takeWhile ofAuthority = t ∧ (t ++ rest).dropWhile ofAuthority = rest := by
  rw [List.takeWhile_append_of_pos inside,List.dropWhile_append_of_pos inside]
  cases rest with
  | nil => simp
  | cons c rest =>
    have ended := rooted c rfl
    simp [ended]

theorem digits_authority (n : Nat) : ∀ c ∈ ':' :: Nat.toDigits 10 n, ofAuthority c = true := by
  intro c member
  rcases List.mem_cons.mp member with rfl | member
  · rfl
  · have digit := Nat.isDigit_of_mem_toDigits (by omega) (by omega) member
    have apart : ∀ d : Char, d.isDigit = false → c ≠ d := fun d other same => by
      rw [same,other] at digit
      cases digit
    simp only [ofAuthority,Bool.and_eq_true,bne_iff_ne]
    exact ⟨⟨apart '/' rfl,apart '?' rfl⟩,apart '#' rfl⟩

theorem read_authority (host : List Char) (n : Nat) : readAuthority (host ++ ':' :: Nat.toDigits 10 n) = some (host,n) := by
  have digits : ∀ c ∈ Nat.toDigits 10 n, c.isDigit = true := fun c member =>
    Nat.isDigit_of_mem_toDigits (by omega) (by omega) member
  have outside : ':' ∉ (Nat.toDigits 10 n).reverse := fun member => by
    have digit := digits _ (List.mem_reverse.mp member)
    cases digit
  have turned : (host ++ ':' :: Nat.toDigits 10 n).reverse = (Nat.toDigits 10 n).reverse ++ ':' :: host.reverse := by simp
  obtain ⟨taken,dropped⟩ := split_colon _ host.reverse outside
  have all : (Nat.toDigits 10 n).all Char.isDigit = true := List.all_eq_true.mpr digits
  simp only [readAuthority,turned,taken,dropped,List.reverse_reverse]
  rw [if_pos ⟨Nat.toDigits_ne_nil,all⟩,Nat.ofDigitChars_toDigits (by omega) (by omega)]

def Contained (host : List Char) : Prop := ∀ c ∈ host, ofAuthority c = true

theorem read_url_iff (scheme host target : List Char) (n : Nat) (bare : ':' ∉ scheme) :
    readUrl (scheme ++ "://".toList ++ (host ++ ':' :: Nat.toDigits 10 n) ++ target) = some ⟨scheme,host,n,target⟩ ↔
      Contained host ∧ Rooted target := by
  have shape : scheme ++ "://".toList ++ (host ++ ':' :: Nat.toDigits 10 n) ++ target =
      scheme ++ ':' :: ("//".toList ++ ((host ++ ':' :: Nat.toDigits 10 n) ++ target)) := by simp
  obtain ⟨before,behind⟩ := split_colon scheme ("//".toList ++ ((host ++ ':' :: Nat.toDigits 10 n) ++ target)) bare
  have stripped : ("://".toList ++ ((host ++ ':' :: Nat.toDigits 10 n) ++ target)).dropPrefix? "://".toList =
      some ((host ++ ':' :: Nat.toDigits 10 n) ++ target) := List.dropPrefix?_append_of_beq _ (beq_self_eq_true _)
  change (':' :: ("//".toList ++ ((host ++ ':' :: Nat.toDigits 10 n) ++ target))).dropPrefix? "://".toList = _ at stripped
  rw [shape,readUrl,before,behind,stripped]
  simp only [Option.bind_eq_bind,Option.bind_some]
  constructor
  · intro read
    obtain ⟨authority,_,same⟩ := Option.bind_eq_some_iff.mp read
    have ended : ((host ++ ':' :: Nat.toDigits 10 n) ++ target).dropWhile ofAuthority = target :=
      congrArg Url.target (Option.some.inj same)
    have parts := List.takeWhile_append_dropWhile (p := ofAuthority) (l := (host ++ ':' :: Nat.toDigits 10 n) ++ target)
    rw [ended] at parts
    have taken := List.append_cancel_right parts
    refine ⟨fun c member => ?_,fun c head => ?_⟩
    · have inside : c ∈ ((host ++ ':' :: Nat.toDigits 10 n) ++ target).takeWhile ofAuthority := by
        rw [taken]
        exact List.mem_append_left _ member
      exact List.all_eq_true.mp List.all_takeWhile c inside
    · have stops := List.head?_dropWhile_not ofAuthority ((host ++ ':' :: Nat.toDigits 10 n) ++ target)
      rw [ended,Option.mem_def.mp head] at stops
      exact stops
  · rintro ⟨contained,rooted⟩
    have inside : ∀ c ∈ host ++ ':' :: Nat.toDigits 10 n, ofAuthority c = true := by
      intro c member
      rcases List.mem_append.mp member with member | member
      · exact contained c member
      · exact digits_authority n c member
    obtain ⟨taken,dropped⟩ := take_inside _ target inside rooted
    rw [taken,dropped,read_authority]
    rfl

structure OneListener (c : LoomConfig) (path : List Char) : Prop where
  request : readUrl (c.httpBaseUrl ++ path) = some ⟨c.httpScheme,c.host,c.listenerPort,c.ingressPrefix ++ c.basePath ++ path⟩ ↔
    Contained c.host ∧ Rooted (c.ingressPrefix ++ c.basePath ++ path)
  stream : readUrl c.wsUrl = some ⟨c.wsScheme,c.host,c.listenerPort,c.ingressPrefix ++ c.basePath ++ "/events".toList⟩ ↔
    Contained c.host ∧ Rooted (c.ingressPrefix ++ c.basePath ++ "/events".toList)
  central : readUrl c.createCentralUrl = some ⟨c.httpScheme,c.host,c.listenerPort,c.ingressPrefix⟩ ↔
    Contained c.host ∧ Rooted c.ingressPrefix

theorem http_scheme_bare (c : LoomConfig) : ':' ∉ c.httpScheme := by
  unfold LoomConfig.httpScheme
  cases c.tls <;> decide

theorem ws_scheme_bare (c : LoomConfig) : ':' ∉ c.wsScheme := by
  unfold LoomConfig.wsScheme
  cases c.tls <;> decide

theorem one_listener (c : LoomConfig) (path : List Char) : OneListener c path := by
  refine ⟨?_,?_,?_⟩
  · have read := read_url_iff c.httpScheme c.host (c.ingressPrefix ++ c.basePath ++ path) c.listenerPort (http_scheme_bare c)
    rw [← read,LoomConfig.httpBaseUrl,LoomConfig.authority]
    simp only [List.append_assoc]
  · have read := read_url_iff c.wsScheme c.host (c.ingressPrefix ++ c.basePath ++ "/events".toList) c.listenerPort (ws_scheme_bare c)
    rw [← read,LoomConfig.wsUrl,LoomConfig.authority]
    simp only [List.append_assoc]
  · exact read_url_iff c.httpScheme c.host c.ingressPrefix c.listenerPort (http_scheme_bare c)

-- A box whose web server mounts the daemon under a prefix with a slash at its end.
example : ∃ c : LoomConfig,
    configure "box.local".toList .none none true "/api/v1".toList .empty "client".toList
      (some ⟨"t".toList,none,"/addons/loom/".toList⟩) = .ok c ∧
    readUrl c.wsUrl = some ⟨"wss".toList,"box.local".toList,443,"/addons/loom/api/v1/events".toList⟩ :=
  ⟨_,rfl,by decide +kernel⟩

end Listener

end LoomClient.Transport.Credentials
