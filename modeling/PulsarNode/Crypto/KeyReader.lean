/-
`CryptoKeyReaderWrapper`: a thread of the native client asks a JS object for a key, and what the object
gives is stored in the native key info. On the main thread the method is called at once, on any other
thread by a job that the thread waits for. Only the call of the method and the reading of its result
are in a `try` block.
-/
import PulsarNode.Listener.Bridge
import PulsarNode.Napi.Object

namespace PulsarNode.CryptoKeyReader

open Napi Prog
open Bridge (BridgeQuery CryptoResult napiOk)

/-! ## What is read of the returned object -/

/-- `pulsar::EncryptionKeyInfo`; its metadata is a map, here by its entries. -/
structure EncryptionKeyInfo where
  key : List UInt8
  metadata : List (String × String)
  deriving DecidableEq, Repr

def cfgKey : String := "key"
def cfgMetadata : String := "metadata"

/-- The bytes of the key, if it is a buffer. -/
def readKey (obj : JsValue) : Napi Unit (Option (List UInt8)) := do
  if ← hasAs obj cfgKey JsValue.isBuffer then
    return some (← bufferBytes (← get obj cfgKey))
  return none

/-- The metadata, if it is an object. The name of an entry is passed on as a C string. -/
def readMetadata (obj : JsValue) : Napi Unit (Option (List (String × String))) := do
  if ← hasAs obj cfgMetadata JsValue.isObject then
    let metaObj ← get obj cfgMetadata
    let keys ← getPropertyNames metaObj
    let r ← forLength (γ := Empty) keys (fun i metadata => do
      let k ← toString (← getAt keys i)
      let v ← getString metaObj (cStr k)
      return .ok (define k v metadata)) []
    match r with
    | .ok metadata => return some metadata
  return none

namespace EncryptionKeyInfo

/-- `setKey`, where there is a key. -/
def setKey? (key : Option (List UInt8)) (info : EncryptionKeyInfo) : EncryptionKeyInfo :=
  match key with
  | some bytes => { info with key := bytes }
  | none => info

/-- `setMetadata`, where there is metadata. -/
def setMetadata? (metadata : Option (List (String × String))) (info : EncryptionKeyInfo) : EncryptionKeyInfo :=
  match metadata with
  | some metadata => { info with metadata := metadata }
  | none => info

end EncryptionKeyInfo

/-- The key is set before the metadata is read. -/
def parseEncryptionKeyInfo (obj : JsValue) : Napi EncryptionKeyInfo Unit := do
  let key ← (readKey obj).lift
  Prog.change (·.setKey? key)
  let metadata ← (readMetadata obj).lift
  Prog.change (·.setMetadata? metadata)

/-! ## The call of the method -/

inductive Method
  | getPublicKey | getPrivateKey
  deriving DecidableEq, Repr

def Method.name : Method → String
  | getPublicKey => "getPublicKey"
  | getPrivateKey => "getPrivateKey"

/-- What JS does: reads, the making of an object, the assignment of a string to one of its properties, and
the call of a function on an object with a key name and a metadata object. -/
structure ReaderSide (J : Type) where
  js : (q : JsQuery) → J → Except JsError q.Resp × J
  newObject : J → JsValue × J
  set : JsValue → String → String → J → Except JsError Unit × J
  call : JsValue → JsValue → String → JsValue → J → Except JsError JsValue × J

variable {J : Type}

namespace ReaderSide

/-- Beside it, the native client is asked nothing. -/
def sides (side : ReaderSide J) : Sides J Unit where
  js := side.js
  setter _ n := (.ok 0, n)
  start _ n := (none, n)
  createClient _ n := (.ok (), n)

/-- `metadataObj.Set(kv.first, kv.second)` for each entry. -/
def setAll (side : ReaderSide J) (obj : JsValue) : List (String × String) → World J Unit → Except Exn Unit × World J Unit
  | [], w => (.ok (), w)
  | (k, v) :: rest, w =>
    match side.set obj (cStr k) v w.js with
    | (.error e, j) => (.error (.napi e), { w with js := j })
    | (.ok (), j) => side.setAll obj rest { w with js := j }

end ReaderSide

/-- The method, if the object has it and it is a function. -/
def findMethod (obj : JsValue) (method : Method) : Napi Unit (Option JsValue) := do
  if !(← has obj method.name) then
    return none
  let funcVal ← get obj method.name
  if !funcVal.isFunction then
    return none
  return some funcVal

/-- `callJsMethod` up to its `try` block: the function and the metadata object for it. -/
def prepare (side : ReaderSide J) (obj : JsValue) (method : Method) (metadata : List (String × String))
    (w : World J Unit) : Except Exn (Option (JsValue × JsValue)) × World J Unit :=
  match (findMethod obj method).run side.sides.answer () w with
  | (.error e, _, w) => (.error e, w)
  | (.ok none, _, w) => (.ok none, w)
  | (.ok (some func), _, w) =>
    let (metadataObj, j) := side.newObject w.js
    match side.setAll metadataObj metadata { w with js := j } with
    | (.error e, w) => (.error e, w)
    | (.ok (), w) => (.ok (some (func, metadataObj)), w)

/-- The body of the `try` block. -/
def tryBlock (side : ReaderSide J) (obj func : JsValue) (keyName : String) (metadataObj : JsValue)
    (info : EncryptionKeyInfo) (w : World J Unit) : Except Exn CryptoResult × EncryptionKeyInfo × World J Unit :=
  match side.call func obj keyName metadataObj w.js with
  | (.error e, j) => (.error (.napi e), info, { w with js := j })
  | (.ok result, j) =>
    if result.isObject then
      match (parseEncryptionKeyInfo result).run side.sides.answer info { w with js := j } with
      | (.error e, info, w) => (.error e, info, w)
      | (.ok (), info, w) => (.ok .ok, info, w)
    else
      (.ok .cryptoError, info, { w with js := j })

/-- Whatever is thrown in the `try` block is a crypto error. -/
def caught : Except Exn CryptoResult → CryptoResult
  | .ok r => r
  | .error _ => .cryptoError

/-- `callJsMethod`; the reference to the object may be empty. -/
def callJsMethod (side : ReaderSide J) (jsObject : Option JsValue) (method : Method) (keyName : String)
    (metadata : List (String × String)) (info : EncryptionKeyInfo) (w : World J Unit) :
    Except Exn CryptoResult × EncryptionKeyInfo × World J Unit :=
  match jsObject with
  | none => (.ok .cryptoError, info, w)
  | some obj =>
    match prepare side obj method metadata w with
    | (.error e, w) => (.error e, info, w)
    | (.ok none, w) => (.ok .cryptoError, info, w)
    | (.ok (some (func, metadataObj)), w) =>
      match tryBlock side obj func keyName metadataObj info w with
      | (r, info, w) => (.ok (caught r), info, w)

/-! ## The two threads -/

/-- The key info, JS, and what the promise of the waiting thread was set to. -/
structure CallState (J : Type) where
  info : EncryptionKeyInfo
  world : World J Unit
  promise : Option CryptoResult

/-- Why a call does not return: an exception leaves it, or it waits for a promise that nobody sets. -/
inductive Lost
  | escaped (e : Exn)
  | forever
  deriving DecidableEq

/-- The call of the method, as one step of JS. -/
abbrev Job (J : Type) := EncryptionKeyInfo → World J Unit → Except Exn CryptoResult × EncryptionKeyInfo × World J Unit

/-- The answers while the environment is alive: a job that is queued runs, and it sets the promise when the
method call returns. An exception out of the job is reported to JS. -/
def answer (job : Job J) (mainThread : Bool) : Answerer BridgeQuery BridgeQuery.Resp Lost (CallState J)
  | .onMainThread, st => (.ok mainThread, st)
  | .callJsMethod, st =>
    match job st.info st.world with
    | (.ok r, info, w) => (.ok r, ⟨info, w, st.promise⟩)
    | (.error e, info, w) => (.error (.escaped e), ⟨info, w, st.promise⟩)
  | .blockingCall, st =>
    match job st.info st.world with
    | (.ok r, info, w) => (.ok napiOk, ⟨info, w, some r⟩)
    | (.error _, info, w) => (.ok napiOk, ⟨info, w, st.promise⟩)
  | .wait, st =>
    match st.promise with
    | some _ => (.ok (), st)
    | none => (.error .forever, st)
  | .result, st =>
    match st.promise with
    | some r => (.ok r, st)
    | none => (.error .forever, st)
  | .acquire, st => (.ok napiOk, st)
  | .release, st => (.ok (), st)
  | .token, st => (.ok "", st)
  | .consumerFuture, st => (.ok (0 : Nat), st)
  | .reader, st => (.ok (none : Option Handle), st)

/-- `executeCallback`, on the main thread or on another one. -/
def executeCallback (job : Job J) (mainThread : Bool) (info : EncryptionKeyInfo) (w : World J Unit) :
    Except Lost CryptoResult × Unit × CallState J :=
  Bridge.executeCallback.run (answer job mainThread) () ⟨info, w, none⟩

/-! ## What the object shows -/

/-- The view is what the JS side shows, with the names of the properties of each object; Node-API makes a
new array of them each time. -/
structure Shows (v : View) (names : JsValue → List String) (side : ReaderSide J) : Prop where
  lawful : v.Lawful
  steady : v.Steady side.sides
  keys : ∀ o (keys : JsValue) j j', side.js (.getPropertyNames o) j = (.ok keys, j') →
    v.elements keys = (names o).map .string
  nodup : ∀ o, (names o).Nodup

/-- What the JS side answers. -/
def Told (v : View) (names : JsValue → List String) : (q : Query) → q.Resp → Prop
  | .js (.getPropertyNames o), (keys : JsValue) => v.elements keys = (names o).map .string
  | .js q, r => q.steady → r = v q
  | _, _ => True

/-- The text of a property. -/
def text (v : View) (o : JsValue) (key : String) : String := v (.toString (v.get o key))

/-- The entries of a metadata object, each value read under `lookup` of its name. -/
def entries (v : View) (names : JsValue → List String) (lookup : String → String) (o : JsValue) : List (String × String) :=
  (names o).map fun k => (k, text v o (lookup k))

section

variable {v : View} {names : JsValue → List String} {side : ReaderSide J}

theorem entries_names (lookup : String → String) (o : JsValue) : (entries v names lookup o).map Prod.fst = names o := by
  simp [entries, Function.comp_def]

theorem reading_told (hv : v.Lawful) : Reading v (Told v names) (fun _ => True) := by
  refine ⟨hv, fun q r hq hr => ?_, fun _ _ => trivial⟩
  cases q with
  | getPropertyNames o => exact hq.elim
  | _ => exact hr hq

theorem Shows.answerJs_told (h : Shows v names side) {q : JsQuery} {r : q.Resp} {w w' : World J Unit}
    (hr : side.sides.answerJs q w = (.ok r, w')) : Told v names (.js q) r := by
  cases q with
  | getPropertyNames o =>
    unfold Sides.answerJs at hr
    split at hr
    · cases hr
    · split at hr <;> cases hr
      exact h.keys o r _ _ (by assumption)
  | _ => exact fun hq => h.steady.answerJs hq hr

theorem Shows.told (h : Shows v names side) {q : Query} {r : q.Resp} {w w' : World J Unit}
    (hr : side.sides.answer q w = (.ok r, w')) : Told v names q r := by
  cases q with
  | js q => exact h.answerJs_told hr
  | _ => trivial

/-- What a program that returns has given. -/
theorem Shows.run_ok (h : Shows v names side) {S α : Type} {p : Napi S α} {post : α → S → Prop} {s s' : S} {a : α}
    {w w' : World J Unit} (hp : ensures (Told v names) (fun _ => True) p post s)
    (hrun : p.run side.sides.answer s w = (.ok a, s', w')) : post a s' := by
  have htold : ∀ q w r w', side.sides.answer q w = (.ok r, w') → Told v names q r := fun _ _ _ _ => h.told
  exact ensures_run_ok hp (fun _ _ => Answered.of_steady htold) hrun

/-! ## The parts of the parser -/

/-- The key that the view shows. -/
def shownKey (v : View) (o : JsValue) : Option (List UInt8) :=
  if (v.option o cfgKey).isBuffer then some (v (.bufferBytes (v.option o cfgKey))) else none

theorem gives_readKey (hv : v.Lawful) (o : JsValue) :
    Gives (Told v names) (fun _ => True) (readKey o) (shownKey v o) () := by
  have R : Reading v (Told v names) (fun _ => True) := reading_told hv
  unfold shownKey
  refine (R.hasAs rfl).seq ?_
  cases hb : (v.option o cfgKey).isBuffer with
  | false => exact ⟨rfl, rfl⟩
  | true =>
    refine R.get.seq ?_
    rw [View.get_eq_option JsValue.isBuffer rfl hb]
    have hbytes : Gives (Told v names) (fun _ => True) (bufferBytes (v.option o cfgKey)) _ () :=
      R.js (q := .bufferBytes _) trivial trivial
    exact hbytes.bind (.pure _)

/-- The metadata that comes of the view: each value is read under a C string. -/
theorem gives_readMetadata (h : Shows v names side) (o : JsValue) :
    Gives (Told v names) (fun _ => True) (readMetadata o) ((v.object o cfgMetadata).map (entries v names cStr)) () := by
  have R : Reading v (Told v names) (fun _ => True) := reading_told h.lawful
  unfold View.object JsValue.only
  refine (R.hasAs rfl).seq ?_
  cases hb : (v.option o cfgMetadata).isObject with
  | false => exact ⟨rfl, rfl⟩
  | true =>
    refine R.get.seq ?_
    rw [View.get_eq_option JsValue.isObject rfl hb]
    generalize v.option o cfgMetadata = metaObj
    have hnames : ensures (Told v names) (fun _ => True) (getPropertyNames metaObj : Napi Unit JsValue)
        (fun keys _ => v.elements keys = (names metaObj).map .string) () := ⟨trivial, fun _ hkeys => hkeys⟩
    refine ensures_seq hnames fun keys s hel => ?_
    have hlen : v.size keys = (names metaObj).length := by rw [← v.length_elements keys, hel, List.length_map]
    -- after `i` passes, the entries of the first `i` names have been gathered
    refine ensures_seq (R.forLength (fun i metadata _ => metadata = (entries v names cStr metaObj).take i)
      (fun e _ => e.elim) (fun i metadata s hi hinv => ?_) rfl) fun r s hr => ?_
    · have hi' : i < (names metaObj).length := hlen ▸ hi
      have hget : v.getAt keys i = .string (names metaObj)[i] := by
        have helem : (v.elements keys)[i]? = some (v.getAt keys i) := by simp [View.elements, hi]
        rw [hel, List.getElem?_map, List.getElem?_eq_getElem hi'] at helem
        exact (Option.some.inj helem).symm
      refine R.getAt.seq ?_
      rw [hget]
      refine R.toString.seq ?_
      have htext : Gives (Told v names) (fun _ => True) (getString metaObj (cStr (names metaObj)[i]))
          (text v metaObj (cStr (names metaObj)[i])) s := R.get.bind (R.js (q := .toString _) trivial trivial)
      refine htext.seq ?_
      show define (names metaObj)[i] (text v metaObj (cStr (names metaObj)[i])) metadata = _
      have hfresh : (names metaObj)[i] ∉ metadata.map Prod.fst := by
        have hnodup := (h.nodup metaObj).sublist (List.take_sublist (i + 1) _)
        rw [List.take_succ_eq_append_getElem hi', List.nodup_append] at hnodup
        rw [hinv, List.map_take, entries_names]
        exact fun hmem => hnodup.2.2 _ hmem _ (by simp) rfl
      rw [define_fresh hfresh, hinv, List.take_succ_eq_append_getElem (by simpa [entries] using hi')]
      simp [entries]
    · cases r with
      | error e => exact e.elim
      | ok metadata =>
        have hmetadata : metadata = (entries v names cStr metaObj).take (v.size keys) := hr
        have hall : (entries v names cStr metaObj).length ≤ v.size keys := by simp [entries, hlen]
        rw [hmetadata, List.take_of_length_le hall]
        exact ⟨rfl, rfl⟩

end

/-- The parser as its parts run. -/
theorem run_parseEncryptionKeyInfo (side : ReaderSide J) (obj : JsValue) (info : EncryptionKeyInfo) (w : World J Unit) :
    (parseEncryptionKeyInfo obj).run side.sides.answer info w =
      match (readKey obj).run side.sides.answer () w with
      | (.error e, _, w₁) => (.error e, info, w₁)
      | (.ok key, _, w₁) =>
        match (readMetadata obj).run side.sides.answer () w₁ with
        | (.error e, _, w₂) => (.error e, info.setKey? key, w₂)
        | (.ok metadata, _, w₂) => (.ok (), (info.setKey? key).setMetadata? metadata, w₂) := by
  unfold parseEncryptionKeyInfo
  rw [run_bind, run_lift]
  rcases (readKey obj).run side.sides.answer () w with ⟨e | key, -, w₁⟩
  · rfl
  · have hset : (Prog.change (·.setKey? key) : Napi EncryptionKeyInfo Unit).run side.sides.answer info w₁ =
        (.ok (), info.setKey? key, w₁) := rfl
    dsimp only
    rw [run_bind_ok _ hset, run_bind, run_lift]
    rcases (readMetadata obj).run side.sides.answer () w₁ with ⟨e | metadata, -, w₂⟩
    · rfl
    · rfl

/-! ## The two threads come to the same -/

theorem executeCallback_onMainThread (job : Job J) (info : EncryptionKeyInfo) (w : World J Unit) :
    executeCallback job true info w =
      match job info w with
      | (.ok r, info', w') => (.ok r, (), ⟨info', w', none⟩)
      | (.error e, info', w') => (.error (.escaped e), (), ⟨info', w', none⟩) := by
  have hmain : Bridge.onMainThread.run (answer job true) () ⟨info, w, none⟩ = (.ok true, (), ⟨info, w, none⟩) := rfl
  unfold executeCallback Bridge.executeCallback
  rw [run_bind_ok _ hmain, if_pos rfl]
  rcases hjob : job info w with ⟨e | r, info', w'⟩
  · exact run_ask_error _ (by simp [answer, hjob]) ()
  · exact run_ask_ok _ (by simp [answer, hjob]) ()

/-- The job that does not set the promise is waited for all the same. -/
theorem executeCallback_onOtherThread (job : Job J) (info : EncryptionKeyInfo) (w : World J Unit) :
    executeCallback job false info w =
      match job info w with
      | (.ok r, info', w') => (.ok r, (), ⟨info', w', some r⟩)
      | (.error _, info', w') => (.error .forever, (), ⟨info', w', none⟩) := by
  have hmain : Bridge.onMainThread.run (answer job false) () ⟨info, w, none⟩ = (.ok false, (), ⟨info, w, none⟩) := rfl
  unfold executeCallback Bridge.executeCallback
  rw [run_bind_ok _ hmain, if_neg (by simp)]
  rcases hjob : job info w with ⟨e | r, info', w'⟩
  · have hcall : Bridge.blockingCall.run (answer job false) () ⟨info, w, none⟩ = (.ok napiOk, (), ⟨info', w', none⟩) :=
      run_ask_ok _ (by simp [answer, hjob]) ()
    rw [run_bind_ok _ hcall]
    rfl
  · have hcall : Bridge.blockingCall.run (answer job false) () ⟨info, w, none⟩ = (.ok napiOk, (), ⟨info', w', some r⟩) :=
      run_ask_ok _ (by simp [answer, hjob]) ()
    rw [run_bind_ok _ hcall]
    rfl

theorem executeCallback_ok {job : Job J} {info info' : EncryptionKeyInfo} {w w' : World J Unit} {r : CryptoResult}
    (h : job info w = (.ok r, info', w')) (mainThread : Bool) :
    ∃ promise, executeCallback job mainThread info w = (.ok r, (), ⟨info', w', promise⟩) := by
  cases mainThread with
  | true => exact ⟨none, by rw [executeCallback_onMainThread, h]⟩
  | false => exact ⟨some r, by rw [executeCallback_onOtherThread, h]⟩

/-- An exception out of the method call leaves the main thread without a result, and another thread waiting. -/
theorem executeCallback_error {job : Job J} {info info' : EncryptionKeyInfo} {w w' : World J Unit} {e : Exn}
    (h : job info w = (.error e, info', w')) (mainThread : Bool) :
    executeCallback job mainThread info w =
      (.error (if mainThread then .escaped e else .forever), (), ⟨info', w', none⟩) := by
  cases mainThread with
  | true =>
    rw [executeCallback_onMainThread, h]
    rfl
  | false =>
    rw [executeCallback_onOtherThread, h]
    rfl

/-! ## What is promised -/

section

variable (side : ReaderSide J) (obj : JsValue) (method : Method) (keyName : String) (metadata : List (String × String))
  (info : EncryptionKeyInfo) (w : World J Unit)

/-- The method is called, and the call returns `x`. -/
def Returned (x : JsValue) (w' : World J Unit) : Prop :=
  ∃ func metadataObj w₁ j, prepare side obj method metadata w = (.ok (some (func, metadataObj)), w₁) ∧
    side.call func obj keyName metadataObj w₁.js = (.ok x, j) ∧ w' = { w₁ with js := j }

/-- The key of an object is read, and then its metadata. -/
def Readable (x : JsValue) (w : World J Unit) : Prop :=
  ∃ key w₁ metadata w₂, (readKey x).run side.sides.answer () w = (.ok key, (), w₁) ∧
    (readMetadata x).run side.sides.answer () w₁ = (.ok metadata, (), w₂)

/-- The key of an object is read, and its metadata raises. -/
def KeyOnly (x : JsValue) (w : World J Unit) : Prop :=
  ∃ key w₁ e w₂, (readKey x).run side.sides.answer () w = (.ok key, (), w₁) ∧
    (readMetadata x).run side.sides.answer () w₁ = (.error e, (), w₂)

variable (v : View) (names : JsValue → List String)

/-- The object is one with a buffer key, and all of it can be read. -/
structure Good (x : JsValue) (w : World J Unit) : Prop where
  isObject : x.isObject = true
  isBuffer : (v.option x cfgKey).isBuffer = true
  readable : Readable side x w

/-- A good object is taken over; without one, the key info stays as it was. -/
structure Answers (good : JsValue → Prop) (r : CryptoResult) (info' : EncryptionKeyInfo) : Prop where
  taken : ∀ x, good x → r = .ok ∧ info'.key = v (.bufferBytes (v.option x cfgKey)) ∧
    ∀ m, v.object x cfgMetadata = some m → info'.metadata = entries v names id m
  refused : (∀ x, ¬ good x) → r = .cryptoError ∧ info' = info

/-- On either thread the call returns, with the same result and the same key info. -/
def Meets : Prop :=
  ∃ r info', (∀ mainThread, ∃ w' promise,
      executeCallback (callJsMethod side (some obj) method keyName metadata) mainThread info w =
        (.ok r, (), ⟨info', w', promise⟩)) ∧
    Answers info v names (fun x => ∃ w', Returned side obj method keyName metadata w x w' ∧ Good side v x w') r info'

/-- An object is read to its end only where its key is a buffer, and a C string of each name of its metadata
finds the text under that name. Where no more than its key is read, that key is the one already there. -/
structure Safe (x : JsValue) (w : World J Unit) : Prop where
  isBuffer : Readable side x w → (v.option x cfgKey).isBuffer = true
  names : Readable side x w → ∀ m, v.object x cfgMetadata = some m → ∀ k ∈ names m, text v m (cStr k) = text v m k
  sameKey : KeyOnly side x w → ∀ bytes, shownKey v x = some bytes → bytes = info.key

end

section

variable {v : View} {names : JsValue → List String} {side : ReaderSide J} {obj : JsValue} {method : Method}
  {keyName : String} {metadata : List (String × String)} {info : EncryptionKeyInfo} {w : World J Unit}

/-- The threads agree, so the promise is about the method call alone. -/
theorem meets_iff_job : Meets side obj method keyName metadata info w v names ↔
    ∃ r info' w', callJsMethod side (some obj) method keyName metadata info w = (.ok r, info', w') ∧
      Answers info v names (fun x => ∃ w', Returned side obj method keyName metadata w x w' ∧ Good side v x w')
        r info' := by
  constructor
  · rintro ⟨r, info', hruns, hanswers⟩
    obtain ⟨w', promise, hrun⟩ := hruns true
    rcases hjob : callJsMethod side (some obj) method keyName metadata info w with ⟨e | r', info'', w''⟩
    · rw [executeCallback_error hjob] at hrun
      cases hrun
    · obtain ⟨promise', hrun'⟩ := executeCallback_ok hjob true
      rw [hrun] at hrun'
      cases hrun'
      exact ⟨r, info', w', rfl, hanswers⟩
  · rintro ⟨r, info', w', hjob, hanswers⟩
    refine ⟨r, info', fun mainThread => ?_, hanswers⟩
    obtain ⟨promise, hrun⟩ := executeCallback_ok hjob mainThread
    exact ⟨w', promise, hrun⟩

/-- The texts of a metadata object are those under its own names. -/
theorem entries_cStr_iff (m : JsValue) :
    entries v names cStr m = entries v names id m ↔ ∀ k ∈ names m, text v m (cStr k) = text v m k := by
  unfold entries
  simp [List.map_inj_left]

/-- Without a good object, the promise is the crypto error and the key info as it was. -/
theorem answers_refused {good : JsValue → Prop} (h : ∀ x, ¬ good x) : Answers info v names good .cryptoError info :=
  ⟨fun x hx => absurd hx (h x), fun _ => ⟨rfl, rfl⟩⟩

/-- Where the key is read, the metadata alone decides. -/
theorem readable_iff {x : JsValue} {key : Option (List UInt8)} {w₁ : World J Unit}
    (h : (readKey x).run side.sides.answer () w = (.ok key, (), w₁)) :
    Readable side x w ↔ ∃ metadata w₂, (readMetadata x).run side.sides.answer () w₁ = (.ok metadata, (), w₂) := by
  constructor
  · rintro ⟨key', w₁', metadata, w₂, hkey, hmeta⟩
    rw [h] at hkey
    cases hkey
    exact ⟨metadata, w₂, hmeta⟩
  · rintro ⟨metadata, w₂, hmeta⟩
    exact ⟨key, w₁, metadata, w₂, h, hmeta⟩

theorem keyOnly_iff {x : JsValue} {key : Option (List UInt8)} {w₁ : World J Unit}
    (h : (readKey x).run side.sides.answer () w = (.ok key, (), w₁)) :
    KeyOnly side x w ↔ ∃ e w₂, (readMetadata x).run side.sides.answer () w₁ = (.error e, (), w₂) := by
  constructor
  · rintro ⟨key', w₁', e, w₂, hkey, hmeta⟩
    rw [h] at hkey
    cases hkey
    exact ⟨e, w₂, hmeta⟩
  · rintro ⟨e, w₂, hmeta⟩
    exact ⟨key, w₁, e, w₂, h, hmeta⟩

theorem setKey?_eq_self {key : Option (List UInt8)} :
    info.setKey? key = info ↔ ∀ bytes, key = some bytes → bytes = info.key := by
  obtain ⟨k, m⟩ := info
  cases key with
  | none => simp [EncryptionKeyInfo.setKey?]
  | some bytes => simp [EncryptionKeyInfo.setKey?]

/-- A good object is taken over, except where a C string finds another text in its metadata. -/
theorem answers_good_iff {x : JsValue} (hgood : Good side v x w) (hnotOnly : ¬ KeyOnly side x w) :
    Answers info v names (fun y => y = x ∧ Good side v x w) .ok
        ((info.setKey? (shownKey v x)).setMetadata? ((v.object x cfgMetadata).map (entries v names cStr))) ↔
      Safe side info v names x w := by
  have hset : info.setKey? (shownKey v x) = { info with key := v (.bufferBytes (v.option x cfgKey)) } := by
    unfold shownKey
    rw [if_pos hgood.isBuffer]
    rfl
  rw [hset]
  constructor
  · intro h
    obtain ⟨-, -, hmetadata⟩ := h.taken x ⟨rfl, hgood⟩
    refine ⟨fun _ => hgood.isBuffer, fun _ m hm => ?_, fun h => absurd h hnotOnly⟩
    have heq := hmetadata m hm
    rw [hm] at heq
    exact (entries_cStr_iff m).1 heq
  · intro h
    refine ⟨?_, fun hnone => absurd ⟨rfl, hgood⟩ (hnone x)⟩
    rintro y ⟨rfl, -⟩
    refine ⟨rfl, ?_, fun m hm => ?_⟩
    · cases v.object y cfgMetadata <;> rfl
    · rw [hm]
      exact (entries_cStr_iff m).2 (h.names hgood.readable m hm)

/-- What becomes of an object that the method returned. -/
theorem answers_object_iff (hs : Shows v names side) {x : JsValue} (hx : x.isObject = true) {r : Except Exn Unit}
    {info' : EncryptionKeyInfo} {w' : World J Unit}
    (hrun : (parseEncryptionKeyInfo x).run side.sides.answer info w = (r, info', w')) :
    Answers info v names (fun y => y = x ∧ Good side v x w) (caught (r.map fun _ => .ok)) info' ↔
      Safe side info v names x w := by
  rw [run_parseEncryptionKeyInfo] at hrun
  rcases hkey : (readKey x).run side.sides.answer () w with ⟨e | key, u, w₁⟩
  · rw [hkey] at hrun
    cases hrun
    have hreadable : ¬ Readable side x w := fun ⟨key, w₁, _, _, hkey', _⟩ => by
      rw [hkey] at hkey'
      cases hkey'
    have honly : ¬ KeyOnly side x w := fun ⟨key, w₁, _, _, hkey', _⟩ => by
      rw [hkey] at hkey'
      cases hkey'
    exact iff_of_true (answers_refused fun y hy => hreadable hy.2.readable)
      ⟨fun h => absurd h hreadable, fun h => absurd h hreadable, fun h => absurd h honly⟩
  · obtain rfl : key = shownKey v x := (hs.run_ok (gives_readKey hs.lawful x) hkey).1
    have hreadable := readable_iff hkey
    have honly := keyOnly_iff hkey
    rcases hmeta : (readMetadata x).run side.sides.answer () w₁ with ⟨e | given, u', w₂⟩
    · rw [hkey] at hrun
      dsimp only at hrun
      rw [hmeta] at hrun
      cases hrun
      -- the key has been set, and the call ends in an error
      have hnot : ¬ Readable side x w := by simp [hreadable, hmeta]
      have hthen : KeyOnly side x w := honly.2 ⟨e, _, hmeta⟩
      have hgood : ∀ y, ¬ (y = x ∧ Good side v x w) := fun y hy => hnot hy.2.readable
      constructor
      · intro h
        exact ⟨fun h => absurd h hnot, fun h => absurd h hnot, fun _ => setKey?_eq_self.1 (h.refused hgood).2⟩
      · intro h
        rw [setKey?_eq_self.2 (h.sameKey hthen)]
        exact answers_refused hgood
    · obtain rfl : given = _ := (hs.run_ok (gives_readMetadata hs x) hmeta).1
      rw [hkey] at hrun
      dsimp only at hrun
      rw [hmeta] at hrun
      cases hrun
      have hread : Readable side x w := hreadable.2 ⟨_, _, hmeta⟩
      have hnotOnly : ¬ KeyOnly side x w := by simp [honly, hmeta]
      by_cases hbuffer : (v.option x cfgKey).isBuffer = true
      · exact answers_good_iff ⟨hx, hbuffer, hread⟩ hnotOnly
      · -- the call reports success
        refine iff_of_false (fun h => ?_) fun h => hbuffer (h.isBuffer hread)
        have herror := (h.refused fun y hy => hbuffer hy.2.isBuffer).1
        cases herror

/-- What is returned, once the function and the metadata object are there. -/
theorem returned_iff {func metadataObj : JsValue} {w₁ : World J Unit}
    (h : prepare side obj method metadata w = (.ok (some (func, metadataObj)), w₁)) {x : JsValue} {w' : World J Unit} :
    Returned side obj method keyName metadata w x w' ↔
      ∃ j, side.call func obj keyName metadataObj w₁.js = (.ok x, j) ∧ w' = { w₁ with js := j } := by
  constructor
  · rintro ⟨func', metadataObj', w₁', j, hprepare, hcall, hw⟩
    rw [h] at hprepare
    cases hprepare
    exact ⟨j, hcall, hw⟩
  · rintro ⟨j, hcall, hw⟩
    exact ⟨func, metadataObj, w₁, j, h, hcall, hw⟩

/-- The body of the `try` block. -/
theorem tryBlock_answers_iff (hs : Shows v names side) {func metadataObj : JsValue} {w₁ : World J Unit}
    (h : prepare side obj method metadata w = (.ok (some (func, metadataObj)), w₁)) {r : Except Exn CryptoResult}
    {info' : EncryptionKeyInfo} {w' : World J Unit}
    (hrun : tryBlock side obj func keyName metadataObj info w₁ = (r, info', w')) :
    Answers info v names (fun x => ∃ w', Returned side obj method keyName metadata w x w' ∧ Good side v x w')
        (caught r) info' ↔
      ∀ x w', Returned side obj method keyName metadata w x w' → x.isObject = true → Safe side info v names x w' := by
  unfold tryBlock at hrun
  rcases hcall : side.call func obj keyName metadataObj w₁.js with ⟨e | x, j⟩
  · have hnot (y : JsValue) (w' : World J Unit) : ¬ Returned side obj method keyName metadata w y w' := by
      rw [returned_iff h, hcall]
      rintro ⟨-, ⟨⟩, -⟩
    simp only [hcall] at hrun
    cases hrun
    exact iff_of_true (answers_refused fun y ⟨w', hy, _⟩ => hnot y w' hy) fun y w' hy => absurd hy (hnot y w')
  · have hreturned (y : JsValue) (w' : World J Unit) :
        Returned side obj method keyName metadata w y w' ↔ y = x ∧ w' = { w₁ with js := j } := by
      rw [returned_iff h, hcall]
      constructor
      · rintro ⟨-, ⟨⟩, rfl⟩
        exact ⟨rfl, rfl⟩
      · rintro ⟨rfl, rfl⟩
        exact ⟨j, rfl, rfl⟩
    simp only [hcall] at hrun
    simp only [hreturned]
    generalize { w₁ with js := j } = w₂ at hrun ⊢
    have hgood (y : JsValue) : (∃ w', (y = x ∧ w' = w₂) ∧ Good side v y w') ↔ y = x ∧ Good side v x w₂ := by
      constructor
      · rintro ⟨w', ⟨rfl, rfl⟩, hy⟩
        exact ⟨rfl, hy⟩
      · rintro ⟨rfl, hy⟩
        exact ⟨w₂, ⟨rfl, rfl⟩, hy⟩
    have hsafe : (∀ y w', y = x ∧ w' = w₂ → y.isObject = true → Safe side info v names y w') ↔
        (x.isObject = true → Safe side info v names x w₂) := by
      constructor
      · exact fun hall => hall x w₂ ⟨rfl, rfl⟩
      · rintro hx y w' ⟨rfl, rfl⟩
        exact hx
    simp only [hgood, hsafe]
    by_cases hx : x.isObject = true
    · rw [if_pos hx] at hrun
      rcases hparse : (parseEncryptionKeyInfo x).run side.sides.answer info w₂ with ⟨e | ⟨⟩, info'', w''⟩
      · simp only [hparse] at hrun
        cases hrun
        exact (answers_object_iff hs hx hparse).trans (imp_iff_right hx).symm
      · simp only [hparse] at hrun
        cases hrun
        exact (answers_object_iff hs hx hparse).trans (imp_iff_right hx).symm
    · rw [if_neg hx] at hrun
      cases hrun
      exact iff_of_true (answers_refused fun y hy => hx hy.2.isObject) fun hy => absurd hy hx

end

/-! ## Readers -/

/-- A reader among plain objects, with what its methods come to. -/
def heapReader (h : Heap) (result : Except JsError JsValue) : ReaderSide Unit where
  js q j := (.ok (h.view q), j)
  newObject j := (.object .plain 9, j)
  set _ _ _ j := (.ok (), j)
  call _ _ _ _ j := (result, j)

/-- A reader with one method, and an object with a key and one entry of metadata. -/
def versionedKey : Heap := { Heap.empty with
  props := fun
    | 0 => [("getPublicKey", .object .function 1)]
    | 2 => [(cfgKey, .object .buffer 3), (cfgMetadata, .object .plain 4)]
    | 4 => [("version", .string "1")]
    | _ => []
  elements := fun
    | 5 => [.string "version"]
    | _ => []
  bytes := fun _ => [1, 2]
  names := fun i => if i = 4 then 5 else 6 }

def versionedNames : JsValue → List String
  | .object _ i => if i = 4 then ["version"] else []
  | _ => []

theorem versionedKey_shows (result : Except JsError JsValue) :
    Shows versionedKey.view versionedNames (heapReader versionedKey result) := by
  refine ⟨versionedKey.lawful, ?_, ?_, ?_⟩
  · rintro q r j j' - ⟨⟩
    rfl
  · intro o keys j j' hkeys
    cases o with
    | object k i =>
      cases hkeys
      by_cases hi : i = 4
      · subst hi
        rfl
      · have hnames : versionedKey.names i = 6 := if_neg hi
        have hnone : versionedNames (.object k i) = [] := if_neg hi
        rw [hnone]
        show versionedKey.view.elements (.object .array (versionedKey.names i)) = []
        rw [hnames]
        rfl
    | _ =>
      cases hkeys
      rfl
  · intro o
    unfold versionedNames
    split
    · split <;> simp
    · simp

def oldKey : EncryptionKeyInfo := ⟨[0], []⟩

/-- A reader whose methods are behind a getter that throws. -/
def throwingGetter : ReaderSide Unit := { heapReader Heap.empty (.ok .undefined) with
  js := fun q j =>
    match q with
    | .has _ _ => (.ok true, j)
    | .get _ _ => (.error (.error "locked"), j)
    | q => (.ok (Heap.empty.view q), j) }

-- an object without a key is a success too, and leaves the key as it was
example : callJsMethod (heapReader versionedKey (.ok (.object .plain 7))) (some (.object .plain 0)) .getPublicKey "k" []
    oldKey ⟨(), none, ()⟩ = (.ok .ok, oldKey, ⟨(), none, ()⟩) := rfl

end PulsarNode.CryptoKeyReader
