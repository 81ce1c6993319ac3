import SwitchAcl.CommandLine.Report
import SwitchAcl.Proofs.Document
import SwitchAcl.Proofs.Session
import SwitchAcl.Proofs.Snapshot

/-!
# What a run shows

A run keeps one memory and one output for all that it does, and any of its steps may end it.  Still
it shows what the library computes with a new memory for each port, and how far it gets depends on
the command: the records of ports are shown once all of them are found, addresses are shown port by
port, and a rule change is shown as a whole or not at all.

## Main definitions

* `Task.Writes` — what a step of a run writes and returns.
* `Report.Shows`, `Report.ShowsPrefix` — what a run shows, and how it ends.
* `Invocation.effective` — the settings of a run.

## Main results

* `Task.Writes.bind`, `Task.Writes.bind_none` — steps in sequence, the first of which succeeds or
  fails.
* `Task.writes_each` — documents one after the other, until one cannot be made.
* `Invocation.report_shows` — **a run shows exactly what the library computes.**
-/

namespace SwitchAcl

variable {α β : Type}

namespace CommandLine

/-- From every state of a run that recalls the directory and whose sink is not bounded, a step
writes some documents and returns `o`, or fails where that is nothing. -/
def Task.Writes (d : Directory) (x : Task α) (documents : List Json) (o : Option α) : Prop :=
  ∀ w : Work, w.batch.Recalls d → w.out.room = none →
    (x.run w).1.toOption = o ∧ (x.run w).2.batch.Recalls d ∧
      (x.run w).2.out = w.out.extend documents

namespace Task

variable {d : Directory} {s : Settings} {documents later : List Json}

theorem run_bind (x : Task α) (f : α → Task β) (w : Work) :
    (x >>= f).run w = ExceptT.bindCont f (x.run w).1 (x.run w).2 := rfl

theorem run_get_bind (f : Work → Task β) (w : Work) : (get >>= f).run w = (f w).run w := rfl

theorem writes_pure (d : Directory) (a : α) : Writes d (pure a) [] (some a) :=
  fun w hb _ => ⟨rfl, hb, (Sink.extend_nil w.out).symm⟩

theorem writes_throw (d : Directory) (e : CommandError) : Writes d (throw e : Task α) [] none :=
  fun w hb _ => ⟨rfl, hb, (Sink.extend_nil w.out).symm⟩

/-- **Steps in sequence**, the first of which succeeds. -/
theorem Writes.bind {x : Task α} {f : α → Task β} {a : α} {o : Option β}
    (hx : Writes d x documents (some a)) (hf : Writes d (f a) later o) :
    Writes d (x >>= f) (documents ++ later) o := by
  intro w hb hroom
  obtain ⟨ha, hb', hout⟩ := hx w hb hroom
  have hok : (x.run w).1 = .ok a := by
    cases hrun : (x.run w).1 with
    | error e => rw [hrun] at ha; cases ha
    | ok a' => rw [hrun] at ha; rw [Option.some.inj ha]
  have hrest := hf (x.run w).2 hb' (by rw [hout]; exact hroom)
  rw [run_bind, hok, Sink.extend_append, ← hout]
  exact hrest

/-- **Steps in sequence**, the first of which fails. -/
theorem Writes.bind_none {x : Task α} (hx : Writes d x documents none) (f : α → Task β) :
    Writes d (x >>= f) documents none := by
  intro w hb hroom
  obtain ⟨ha, hb', hout⟩ := hx w hb hroom
  cases hrun : (x.run w).1 with
  | ok a => rw [hrun] at ha; cases ha
  | error e =>
    rw [run_bind, hrun]
    exact ⟨rfl, hb', hout⟩

theorem writes_log (d : Directory) (lines : List LogLine) : Writes d (log lines) [] (some ()) :=
  fun w hb _ => ⟨rfl, hb, (Sink.extend_nil w.out).symm⟩

theorem writes_ofExcept {ε : Type} (d : Directory) (wrap : ε → CommandError) (e : Except ε α) :
    Writes d (ofExcept wrap e) [] e.toOption := by
  cases e with
  | error e => exact writes_throw d _
  | ok a => exact writes_pure d a

/-- What is written may not depend on the state that a step looks at. -/
theorem Writes.get_bind {f : Work → Task β} {o : Option β}
    (hf : ∀ w, Writes d (f w) documents o) : Writes d (get >>= f) documents o :=
  fun w hb hroom => hf w w hb hroom

/-- A document is written, as a step of its own. -/
def emit (j : Json) : Task Unit := do
  let w ← get
  let (answer, out) := Sink.take j w.out
  set ({ w with out } : Work)
  ofExcept .notWritten answer

theorem writes_emit (d : Directory) (j : Json) : Writes d (emit j) [j] (some ()) := by
  intro w hb hroom
  have hrun : (emit j).run w = (.ok (), { w with out := w.out.extend [j] }) := by
    rw [emit, run_get_bind, Sink.take_eq_extend hroom]
    rfl
  rw [hrun]
  exact ⟨rfl, hb, rfl⟩

/-! ### Ports -/

theorem writes_port (d : Directory) (inv : Inventory) (id : String) :
    Writes d (port inv id) [] (inv.port? id) := by
  unfold port
  cases inv.port? id with
  | none => exact writes_throw d _
  | some p => exact writes_pure d p

/-- Ports are found where every identifier is known. -/
theorem writes_portsOf (d : Directory) (inv : Inventory) (ids : List String) :
    Writes d (portsOf inv ids) [] (ids.mapM inv.port?) := by
  induction ids with
  | nil => exact writes_pure d []
  | cons id ids ih =>
    have hport := writes_port d inv id
    rw [portsOf, List.mapM_cons]
    cases hp : inv.port? id with
    | none =>
      rw [hp] at hport
      exact hport.bind_none _
    | some p =>
      rw [hp] at hport
      cases hps : ids.mapM inv.port? with
      | none =>
        rw [hps] at ih
        exact hport.bind (ih.bind_none _)
      | some ps =>
        rw [hps] at ih
        exact hport.bind (ih.bind (writes_pure d (p :: ps)))

/-! ### Commands -/

/-- Steps of a command that compile and hand over. -/
theorem writes_of_sink {x : Task α} {ε : Type} (wrap : ε → CommandError) {e : Except ε α}
    (hx : ∀ w : Work, w.batch.Recalls d → w.out.room = none → ∃ b', b'.Recalls d ∧
      x.run w = (e.mapError wrap, ⟨b', w.out.extend documents⟩)) :
    Writes d x documents e.toOption := by
  intro w hb hroom
  obtain ⟨b', hb', hrun⟩ := hx w hb hroom
  rw [hrun]
  exact ⟨by cases e <;> rfl, hb', rfl⟩

/-- The document of a port is written, if it has one. -/
theorem writes_applyPort (d : Directory) (s : Settings) (p : Port) :
    Writes d (applyPort d s p) (p.document? d s).toList ((p.document? d s).map fun _ => ()) := by
  have houtcome : (p.document? d s).map (fun _ => ())
      = ((p.contents d s).map fun _ => ()).toOption := by
    rw [Port.document?_eq]
    cases p.contents d s <;> rfl
  rw [houtcome]
  refine writes_of_sink (.port p.id) fun w hb hroom => ?_
  obtain ⟨b', hb', happly⟩ := applyPort_sink hb hroom s p
  refine ⟨b', hb', ?_⟩
  rw [applyPort, run_get_bind, happly]
  cases p.contents d s <;> rfl

theorem writes_applyRuleChange (d : Directory) (s : Settings) (group : String) (index : Nat)
    (r : Rule) (isAdd : Bool) :
    Writes d (applyRuleChange d s group index r isAdd)
      (RuleChange.documents (RuleChange.outcome d s group r isAdd))
      ((RuleChange.outcome d s group r isAdd).map Option.isSome).toOption := by
  refine writes_of_sink (.rule group index) fun w hb hroom => ?_
  obtain ⟨b', hb', happly⟩ := applyRuleChange_sink hb hroom s group r isAdd
  refine ⟨b', hb', ?_⟩
  rw [applyRuleChange, run_get_bind, happly]
  cases RuleChange.outcome d s group r isAdd <;> rfl

/-- **One document after the other**, until one cannot be made. -/
theorem writes_each {document? : α → Option Json} {step : α → Task Unit} {run : List α → Task Unit}
    (hnil : run [] = pure ()) (hcons : ∀ x xs, run (x :: xs) = step x >>= fun _ => run xs)
    (hstep : ∀ x, Writes d (step x) (document? x).toList ((document? x).map fun _ => ()))
    (xs : List α) :
    Writes d (run xs) (documentsOf document? xs)
      (if xs.all fun x => (document? x).isSome then some () else none) := by
  induction xs with
  | nil =>
    rw [hnil]
    exact writes_pure d ()
  | cons x xs ih =>
    have hx := hstep x
    rw [hcons]
    cases hj : document? x with
    | none =>
      rw [hj] at hx
      rw [documentsOf_cons_of_none hj, List.all_cons, hj]
      exact hx.bind_none _
    | some j =>
      rw [hj] at hx
      rw [documentsOf_cons_of_some hj, List.all_cons, hj]
      exact hx.bind ih

theorem writes_applyPorts (d : Directory) (s : Settings) (ps : List Port) :
    Writes d (applyPorts d s ps) (documentsOf (Port.document? d s) ps)
      (if ps.all fun p => (p.document? d s).isSome then some () else none) :=
  writes_each rfl (fun _ _ => rfl) (writes_applyPort d s) ps

/-- The addresses of a port are written, as a step of its own. -/
def writeAddress (inv : Inventory) (s : Settings) (id : String) : Task Unit := do
  let p ← port inv id
  log (p.addressLog s.enforced)
  emit (addressDocument id (p.memberAddresses s.enforced))

theorem writeAddresses_cons (inv : Inventory) (s : Settings) (id : String) (ids : List String) :
    writeAddresses inv s (id :: ids)
      = writeAddress inv s id >>= fun _ => writeAddresses inv s ids := by
  rw [writeAddresses]
  simp only [writeAddress, emit, bind_assoc]
  rfl

theorem writes_writeAddress (d : Directory) (inv : Inventory) (s : Settings) (id : String) :
    Writes d (writeAddress inv s id) (inv.addressDocument? s id).toList
      ((inv.addressDocument? s id).map fun _ => ()) := by
  have hport := writes_port d inv id
  rw [writeAddress, Inventory.addressDocument?]
  cases hp : inv.port? id with
  | none =>
    rw [hp] at hport
    exact hport.bind_none _
  | some p =>
    rw [hp] at hport
    exact hport.bind ((writes_log d _).bind (writes_emit d _))

theorem writes_writeAddresses (d : Directory) (inv : Inventory) (s : Settings)
    (ids : List String) :
    Writes d (writeAddresses inv s ids) (documentsOf (inv.addressDocument? s) ids)
      (if ids.all fun id => (inv.addressDocument? s id).isSome then some () else none) :=
  writes_each rfl (writeAddresses_cons inv s) (writes_writeAddress d inv s) ids

end Task

namespace Command

open SwitchAcl.CommandLine.Task

variable {inv : Inventory} {s : Settings}

/-- Nothing is written before all ports are found. -/
theorem writes_runPorts_of_none {ids : List String} (h : inv.requested ids = none) :
    Writes inv.directory (runPorts inv s ids) [] none := by
  have hports := writes_portsOf inv.directory inv ids
  unfold Inventory.requested at h
  split at h
  · cases h
  next hids =>
    rw [h] at hports
    rw [runPorts, List.isEmpty_eq_false_iff.mpr hids]
    exact hports.bind_none _

theorem writes_runPorts {ids : List String} {ports : List Port}
    (h : inv.requested ids = some ports) :
    Writes inv.directory (runPorts inv s ids) (documentsOf (Port.document? inv.directory s) ports)
      (if ports.all fun p => (p.document? inv.directory s).isSome then some () else none) := by
  have hrest : Writes inv.directory (do
      applyPorts inv.directory s ports
      let w ← get
      say .info
        ("Compiled " ++ toString ports.length ++ " ports, cache " ++ w.batch.lookups.stats))
      (documentsOf (Port.document? inv.directory s) ports)
      (if ports.all fun p => (p.document? inv.directory s).isSome then some () else none) := by
    have happly := writes_applyPorts inv.directory s ports
    split at happly
    next hall =>
      rw [if_pos hall]
      exact List.append_nil (documentsOf _ ports) ▸
        happly.bind (.get_bind fun w => writes_log _ _)
    next hall =>
      rw [if_neg hall]
      exact happly.bind_none _
  unfold Inventory.requested at h
  split at h
  next hids =>
    obtain rfl := Option.some.inj h
    rw [runPorts, List.isEmpty_iff.mpr hids]
    exact (writes_pure inv.directory inv.ports).bind hrest
  next hids =>
    have hports := writes_portsOf inv.directory inv ids
    rw [h] at hports
    rw [runPorts, List.isEmpty_eq_false_iff.mpr hids]
    exact hports.bind hrest

/-- Nothing is written where there is no such rule. -/
theorem writes_runRuleChange_of_none {group : String} {index : Nat}
    (h : inv.rule? group index = none) (remove : Bool) :
    Writes inv.directory (runRuleChange inv s group index remove) [] none := by
  unfold Inventory.rule? at h
  rw [runRuleChange]
  cases hg : inv.group? group with
  | none => exact writes_throw _ _
  | some g =>
    rw [hg, Option.bind_some] at h
    simp only [h]
    exact writes_throw _ _

theorem writes_runRuleChange {group : String} {index : Nat} {r : Rule}
    (h : inv.rule? group index = some r) (remove : Bool) :
    Writes inv.directory (runRuleChange inv s group index remove)
      (RuleChange.documents (RuleChange.outcome inv.directory s group r (!remove)))
      ((RuleChange.outcome inv.directory s group r (!remove)).map fun _ => ()).toOption := by
  obtain ⟨g, hg, hr⟩ := Option.bind_eq_some_iff.mp h
  have happly := writes_applyRuleChange inv.directory s group index r (!remove)
  rw [runRuleChange, hg]
  simp only [hr]
  cases houtcome : RuleChange.outcome inv.directory s group r (!remove) with
  | error e =>
    rw [houtcome] at happly
    exact happly.bind_none _
  | ok change =>
    rw [houtcome] at happly
    refine List.append_nil (RuleChange.documents _) ▸ happly.bind ?_
    cases change with
    | none => exact writes_log _ _
    | some c => exact writes_pure _ ()

end Command

/-! ### The whole run -/

/-- A run shows some documents one after the other, and nothing else.  Each is shown with its parts
on lines of their own and a line break behind it. -/
structure Report.Shows (r : Report) (exitCode : Nat) (documents : List Json) : Prop where
  exitCode_eq : r.exitCode = exitCode
  output_eq : r.output = String.join (documents.map fun j => j.indented ++ "\n")
  /-- What is shown of a document is read as the document. -/
  parse_eq : ∀ j ∈ documents, Json.parse (j.indented ++ "\n") = some j

/-- A run shows the documents of the longest prefix of a list whose items all have one, and it
succeeds exactly if that is the whole list. -/
def Report.ShowsPrefix (r : Report) (document? : α → Option Json) (xs : List α) : Prop :=
  r.Shows (if xs.all fun x => (document? x).isSome then 0 else 1) (documentsOf document? xs)

namespace Invocation

variable {i : Invocation} {settings snapshot : Except FileFault String} {s : Settings}
  {inv : Inventory}

/-- The settings of a run, once the file is loaded. -/
def effective (i : Invocation) (s : Settings) : Settings :=
  if i.externalDhcp then { s with nativeDhcp := false } else s

theorem writes_loadSettings (d : Directory)
    (h : (Settings.load i.settingsPath settings).1 = .ok s) :
    Task.Writes d (i.loadSettings settings) [] (some (i.effective s)) := by
  have hload : Settings.load i.settingsPath settings
      = (.ok s, (Settings.load i.settingsPath settings).2) := Prod.ext h rfl
  generalize (Settings.load i.settingsPath settings).2 = lines at hload
  rw [loadSettings, effective, hload]
  refine (Task.writes_log d lines).bind ((Task.writes_ofExcept d _ (.ok s)).bind ?_)
  split
  · exact (Task.writes_log d _).bind (Task.writes_pure d _)
  · exact Task.writes_pure d s

theorem writes_loadInventory (d : Directory)
    (h : Inventory.load i.snapshotPath snapshot = .ok inv) :
    Task.Writes d (i.loadInventory snapshot) [] (some inv) := by
  rw [loadInventory, h]
  exact (Task.writes_ofExcept d _ (.ok inv)).bind
    ((Task.writes_log d _).bind (Task.writes_pure d inv))

/-- A run shows what its command writes. -/
theorem report_shows_of_writes (hs : (Settings.load i.settingsPath settings).1 = .ok s)
    (hinv : Inventory.load i.snapshotPath snapshot = .ok inv) {c : Command} (hc : i.command = c)
    {documents : List Json} {o : Option Unit}
    (h : Task.Writes inv.directory (c.run inv (i.effective s)) documents o)
    (hwritten : ∀ j ∈ documents, j.IsWritten) :
    (i.report settings snapshot).Shows (if o.isSome then 0 else 1) documents := by
  subst hc
  have hrun : Task.Writes inv.directory (i.run settings snapshot) documents o :=
    (writes_loadSettings _ hs).bind ((writes_loadInventory _ hinv).bind h)
  obtain ⟨ho, -, hout⟩ := hrun {} (Batch.recalls_empty _) rfl
  have houtput : ((i.run settings snapshot).run {}).2.out.taken
      = String.join (documents.map fun j => j.indented ++ "\n") := by
    rw [hout]
    exact String.empty_append
  have hparse : ∀ j ∈ documents, Json.parse (j.indented ++ "\n") = some j :=
    fun j hj => Json.parse_indented_line (hwritten j hj)
  unfold report
  generalize (i.run settings snapshot).run {} = result at ho houtput ⊢
  obtain ⟨e, w⟩ := result
  subst ho
  cases e <;> exact ⟨rfl, houtput, hparse⟩

/-- A run whose command writes one document after the other. -/
theorem showsPrefix_of_writes (hs : (Settings.load i.settingsPath settings).1 = .ok s)
    (hinv : Inventory.load i.snapshotPath snapshot = .ok inv) {c : Command} (hc : i.command = c)
    {document? : α → Option Json} {xs : List α}
    (h : Task.Writes inv.directory (c.run inv (i.effective s)) (documentsOf document? xs)
      (if xs.all fun x => (document? x).isSome then some () else none))
    (hwritten : ∀ x j, document? x = some j → j.IsWritten) :
    (i.report settings snapshot).ShowsPrefix document? xs := by
  have hshows := report_shows_of_writes hs hinv hc h (forall_mem_documentsOf hwritten xs)
  unfold Report.ShowsPrefix
  cases hall : xs.all fun x => (document? x).isSome <;> rw [hall] at hshows <;> exact hshows

/-- **A run shows exactly what the library computes.**  Take settings and an inventory that load.

For the records of ports all identifiers have to be known, or else nothing is shown.  Then the
documents of the ports are shown, up to the first port that does not compile with a memory of its
own.  For addresses the documents are shown up to the first identifier that is not known.  Either
way the run succeeds where these are all documents.

For a rule change nothing is shown where there is no such rule, or where the change fails.  Else its
document is shown, if there is a change, and the run succeeds. -/
theorem report_shows (hs : (Settings.load i.settingsPath settings).1 = .ok s)
    (hinv : Inventory.load i.snapshotPath snapshot = .ok inv) :
    (∀ ids, i.command = .ports ids →
      (inv.requested ids = none → (i.report settings snapshot).Shows 1 []) ∧
      ∀ ports, inv.requested ids = some ports →
        (i.report settings snapshot).ShowsPrefix (Port.document? inv.directory (i.effective s))
          ports) ∧
    (∀ ids, i.command = .addresses ids →
      (i.report settings snapshot).ShowsPrefix (inv.addressDocument? (i.effective s)) ids) ∧
    ∀ group index remove, i.command = .ruleChange group index remove →
      (inv.rule? group index = none → (i.report settings snapshot).Shows 1 []) ∧
      ∀ r, inv.rule? group index = some r →
        match (ruleChange inv.directory (i.effective s) group r (!remove) {}).1 with
        | .error _ => (i.report settings snapshot).Shows 1 []
        | .ok none => (i.report settings snapshot).Shows 0 []
        | .ok (some c) => (i.report settings snapshot).Shows 0 [c.document] := by
  refine ⟨fun ids hc => ⟨fun hports => ?_, fun ports hports => ?_⟩, fun ids hc => ?_,
    fun group index remove hc => ⟨fun hrule => ?_, fun r hrule => ?_⟩⟩
  · exact report_shows_of_writes hs hinv hc (Command.writes_runPorts_of_none hports)
      (List.forall_mem_nil _)
  · exact showsPrefix_of_writes hs hinv hc (Command.writes_runPorts hports)
      fun _ _ => Port.isWritten_of_document?
  · exact showsPrefix_of_writes hs hinv hc (Task.writes_writeAddresses inv.directory inv _ ids)
      fun _ _ => Inventory.isWritten_of_addressDocument?
  · exact report_shows_of_writes hs hinv hc (Command.writes_runRuleChange_of_none hrule remove)
      (List.forall_mem_nil _)
  · have hshows := report_shows_of_writes hs hinv hc (Command.writes_runRuleChange hrule remove)
      (RuleChange.isWritten_of_mem_documents _)
    rw [ruleChange_eq_outcome (Batch.recalls_empty inv.directory)]
    split
    next houtcome => rw [houtcome] at hshows; exact hshows
    next houtcome => rw [houtcome] at hshows; exact hshows
    next houtcome => rw [houtcome] at hshows; exact hshows

/-! ### A run that fails -/

/-- The characters that are shown of some documents. -/
theorem toList_join_indented (documents : List Json) :
    (String.join (documents.map fun j => j.indented ++ "\n")).toList
      = documents.flatMap fun j => Json.indentedChars 0 j ++ ['\n'] := by
  rw [String.toList_join, List.flatMap_map]
  simp only [Json.indented, String.toList_append, String.toList_ofList]
  rfl

/-- A port with an address of either family, whose only rule resolves. -/
def plainPort : Port where
  id := "P1"
  network := "N1"
  fixedIps := [⟨"10.0.0.5", "S1"⟩, ⟨"fd00::5", "S1"⟩]
  groups := ["SG1"]

/-- An inventory in which a port that does not compile stands behind one that does. -/
def mixedInventory : Inventory :=
  .ofLists [plainPort, troubledPort] []
    [⟨"SG1", [Inventory.sharedRule]⟩,
      ⟨"SG2", [{ direction := .egress, protocol := some (.name "none") }]⟩]

/-- A run on that inventory. -/
def mixedRun (command : Command) : Invocation where
  snapshotPath := "snapshot.json"
  externalDhcp := true
  command := command

/-- What such a run shows where there is no file of settings. -/
def mixedReport (command : Command) : Report :=
  (mixedRun command).report (.error .missing) (.ok mixedInventory.dump)

/-- The lines of a record of that port, up to its end. -/
def plainRecordLines (priority action direction matchText : String) : List String :=
  ["    \x7b",
   "      \"lswitch\": \"neutron-N1\",",
   "      \"lport\": \"P1\",",
   "      \"priority\": " ++ priority ++ ",",
   "      \"action\": \"" ++ action ++ "\",",
   "      \"log\": false,",
   "      \"name\": null,",
   "      \"severity\": null,",
   "      \"direction\": \"" ++ direction ++ "\",",
   "      \"match\": \"" ++ matchText ++ "\",",
   "      \"external_ids\": \x7b",
   "        \"neutron:lport\": \"P1\"",
   "      \x7d"]

/-- The text of the records of that port. -/
def plainText : String :=
  "\n".intercalate (["\x7b", "  \"port\": \"P1\",", "  \"acls\": ["] ++
    plainRecordLines "1001" "drop" "from-lport" "inport == \\\"P1\\\" && ip" ++ ["    \x7d,"] ++
    plainRecordLines "1001" "drop" "to-lport" "outport == \\\"P1\\\" && ip" ++ ["    \x7d,"] ++
    plainRecordLines "1002" "allow-related" "to-lport"
      "outport == \\\"P1\\\" && ip4 && tcp && tcp.dst == 22" ++ ["    \x7d"] ++
    ["  ]", "\x7d", ""])

/-- The text of the addresses of both ports. -/
def mixedAddressText : String :=
  "\n".intercalate
    ["\x7b",
     "  \"port\": \"P1\",",
     "  \"ip4\": [",
     "    \"10.0.0.5\"",
     "  ],",
     "  \"ip6\": [",
     "    \"fd00::5\"",
     "  ]",
     "\x7d",
     "\x7b",
     "  \"port\": \"P2\",",
     "  \"ip4\": [",
     "    \"10.0.0.5\"",
     "  ],",
     "  \"ip6\": []",
     "\x7d",
     ""]

/-- The theorem at those runs: the port in front is shown, nothing is shown where a port is not
known, the addresses of both ports are shown, the rule that does not resolve makes no change, and
the one that does makes one. -/
theorem report_shows_mixed :
    (Settings.load Settings.defaultPath (.error .missing)).1 = .ok {} ∧
    Inventory.load "snapshot.json" (.ok mixedInventory.dump) = .ok mixedInventory ∧
    ((mixedReport (.ports [])).exitCode = 1 ∧ (mixedReport (.ports [])).output = plainText) ∧
    (mixedReport (.ports ["P1", "P9"])).Shows 1 [] ∧
    ((mixedReport (.addresses ["P1", "P2"])).exitCode = 0 ∧
      (mixedReport (.addresses ["P1", "P2"])).output = mixedAddressText) ∧
    (mixedReport (.ruleChange "SG2" 0 true)).Shows 1 [] ∧
    ∃ c, (ruleChange mixedInventory.directory { nativeDhcp := false } "SG1" Inventory.sharedRule
        true {}).1 = .ok (some c) ∧
      (mixedReport (.ruleChange "SG1" 0 false)).Shows 0 [c.document] := by
  have hs : (Settings.load Settings.defaultPath (.error .missing)).1 = .ok {} := rfl
  have hindexed : mixedInventory.Indexed := Inventory.indexed_ofLists _ _ _
  have hinv : Inventory.load "snapshot.json" (.ok mixedInventory.dump) = .ok mixedInventory := by
    rw [Inventory.load, Inventory.parse_dump hindexed]
  have hall := (report_shows (i := mixedRun (.ports [])) hs hinv).1 [] rfl
  have hunknown := (report_shows (i := mixedRun (.ports ["P1", "P9"])) hs hinv).1 _ rfl
  have haddresses := (report_shows (i := mixedRun (.addresses ["P1", "P2"])) hs hinv).2.1 _ rfl
  have hrejected := (report_shows (i := mixedRun (.ruleChange "SG2" 0 true)) hs hinv).2.2 _ _ _ rfl
  have hmade := (report_shows (i := mixedRun (.ruleChange "SG1" 0 false)) hs hinv).2.2 _ _ _ rfl
  have hshown : (mixedReport (.ports [])).ShowsPrefix
      (Port.document? mixedInventory.directory { nativeDhcp := false }) [plainPort, troubledPort] :=
    hall.2 _ rfl
  have hplain : String.join ((documentsOf
        (Port.document? mixedInventory.directory { nativeDhcp := false })
        [plainPort, troubledPort]).map fun j => j.indented ++ "\n") = plainText := by
    apply String.toList_injective
    rw [toList_join_indented, plainText, String.toList_intercalate]
    decide +kernel
  have hboth : String.join ((documentsOf
        (mixedInventory.addressDocument? { nativeDhcp := false }) ["P1", "P2"]).map
          fun j => j.indented ++ "\n") = mixedAddressText := by
    apply String.toList_injective
    rw [toList_join_indented, mixedAddressText, String.toList_intercalate]
    decide +kernel
  obtain ⟨c, hc⟩ : ∃ c, (ruleChange mixedInventory.directory { nativeDhcp := false } "SG1"
      Inventory.sharedRule true {}).1 = .ok (some c) := ⟨_, rfl⟩
  have hchange := hmade.2 Inventory.sharedRule rfl
  refine ⟨hs, hinv, ⟨hshown.exitCode_eq, hshown.output_eq.trans hplain⟩,
    hunknown.1 (by decide +kernel), ⟨haddresses.exitCode_eq, haddresses.output_eq.trans hboth⟩,
    hrejected.2 _ rfl, c, hc, ?_⟩
  have heffective : (ruleChange mixedInventory.directory
      ((mixedRun (.ruleChange "SG1" 0 false)).effective {}) "SG1" Inventory.sharedRule true {}).1
        = .ok (some c) := hc
  rw [Bool.not_false, heffective] at hchange
  exact hchange

end Invocation

end CommandLine

end SwitchAcl
