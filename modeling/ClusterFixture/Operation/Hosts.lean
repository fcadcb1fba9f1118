/-
Operations on the hosts of a cluster: cleaning up, passing files on, networks and processes. They
write no records to the log.
-/

import ClusterFixture.Operation.Catalog
import ClusterFixture.Operation.Segments

set_option autoImplicit false

namespace ClusterFixture.Op

open ClusterFixture.Number (decimal)

variable {σ : Type}

/-! ## Dump directories -/

/-- Takes the dumps below a directory of a host away. -/
def cleanDumps (host directory : String) : Op σ Unit := do
  let c ← localCommand "cleanup dump dir"
    ("gpssh -h " ++ host ++ " -e 'rm -rf " ++ directory ++ "/db_dumps " ++ directory
      ++ "/gpcrondump.pid'")
  discard (run c)

/-- Takes the dumps below a directory away on every host; without one, below the directories that
each host has for its own. -/
def cleanAllDumps (database : String) (directory : Option String) : Op σ Unit := do
  (← primaryHosts database).forM fun host =>
    match directory with
    | some d => cleanDumps host d
    | none => do (← directoriesOfHost host database).forM fun d => cleanDumps host d

/-- Whether a line of output says that a directory is there: each line starts with its host in
brackets, so the line of the command itself does not count. -/
def reportsPresence (line : String) : Bool := Text.endsWith (Text.trimEnd line) "] EXISTS"

/-- Fails when dumps are left below a directory of a host. -/
def checkDumpsGone (host directory : String) : Op σ Unit := do
  let c ← localCommand "check dump dir"
    ("gpssh -h " ++ host ++ " 'if [ -d " ++ directory
      ++ "/db_dumps/ ]; then echo EXISTS; else echo NOT FOUND; fi'")
  let output ← run c
  if (Text.lines output.stdout).any reportsPresence then
    throw (.detailed .assertionFailed "db_dumps directory is present in master/segments."
      (host ++ ":" ++ directory ++ "/db_dumps"))

/-- Fails when dumps are left below any of the directories of any host. -/
def checkAllDumpsGone (database : String) : Op σ Unit := do
  (← primaryHosts database).forM fun host => do
    (← directoriesOfHost host database).forM fun d => checkDumpsGone host d

/-- Takes the reports below the data directory of the master away. -/
def cleanReports (directory : String) : Op σ Unit := do
  if (Text.trim directory).isEmpty then
    throw (.plain .invalidInput "master_data_dir not specified in cleanup_report_files")
  if Text.trim directory == "/" then
    throw (.plain .invalidInput "Can't call cleanup_report_files on root directory")
  discard (run (← localCommand "cleanup report files" ("rm -f " ++ directory ++ "/gp_*.rpt")))

/-! ## Passing files on -/

/-- The texts in ascending order, each once. -/
def sortedUnique (texts : List String) : List String :=
  (texts.mergeSort fun a b => a ≤ b).eraseDups

/-- The name of the list of hosts. -/
def hostListName : String := "copy_host_file.gpfixture"

/-- Copies a file to the same path on the host of every primary. The list of hosts is taken away
again, however the copying ends. -/
def copyToHosts (file : String) : Op σ Unit := do
  let hosts := sortedUnique ((← layout).primaries.map fun s => s.address)
  let list := Path.join (← read).temporary hostListName
  changeFiles fun files here =>
    files.write here list (Text.utf8 (String.join (hosts.map fun h => h ++ "\n")))
  let c ← localCommand "copy file"
    ("gpscp -f " ++ list ++ " " ++ file ++ " =:" ++ file)
  let result ← attempt (run c)
  changeFiles fun files here => files.remove here list
  match result with
  | .ok _ => pure ()
  | .error f => throw (.detailed .commandFailed "FAIL: gpscp" f.message)

/-- Takes a directory of a host away, however that ends. -/
def removeDirectory (host directory : String) : Op σ Unit := do
  discard (runLoosely ("gpssh -h " ++ host ++ " -e 'rm -rf " ++ directory ++ "'"))

/-- Makes a directory on a host, however that ends. -/
def createDirectory (host directory : String) : Op σ Unit := do
  discard (runLoosely ("gpssh -h " ++ host ++ " -e 'mkdir -p " ++ directory ++ "'"))

/-! ## Networks -/

/-- The interface of a host that stays up while the others go down. -/
def managementAddress (host : String) : String := host ++ "-cm"

/-- Whether an interface of a host is up. -/
def interfaceUp (host interface : String) : Op σ Bool := do
  let output ← run {
    name := "ifconfig nic", line := "sudo /sbin/ifconfig " ++ interface,
    host := some (managementAddress host) }
  return Text.contains output.stdout "UP"

/-- Takes an interface of a host down, and checks that it is. -/
def bringDown (host interface : String) : Op σ Unit := do
  discard (run {
    name := "bring down nic", line := "sudo /sbin/ifdown " ++ interface,
    host := some (managementAddress host) })
  if ← interfaceUp host interface then
    throw (.detailed .commandFailed "Unable to bring down nic"
      ("nic " ++ interface ++ " on host " ++ host))

/-- Brings an interface of a host up, and checks that it is. -/
def bringUp (host interface : String) : Op σ Unit := do
  discard (run {
    name := "bring up nic", line := "sudo /sbin/ifup " ++ interface,
    host := some (managementAddress host) })
  if !(← interfaceUp host interface) then
    throw (.detailed .commandFailed "Unable to bring up nic"
      ("nic " ++ interface ++ " on host " ++ host))

/-! ## Processes -/

/-- The second word of the last line of a process listing that has one, the lines of the search
itself aside. -/
def listedPid? (listing : String) : Option String :=
  ((Text.lines (Text.trim listing)).filter fun line => !Text.contains line "grep").filterMap
    (fun line => (Text.words line)[1]?) |>.getLast?

/-- The number of the process that serves a data directory on a host. -/
def segmentPid (directory host : String) : Op σ (Option Nat) := do
  let output ← run {
    name := "get list of postmaster processes", line := "ps -eaf | grep " ++ directory,
    host := some host }
  match listedPid? output.stdout with
  | none => return none
  | some word =>
    match Number.readInteger (Number.unsignedRange 32) word with
    | .ok n => return some n.toNat
    | .error f => throw (.integer f)

/-- The signal that asks a process to end. -/
def terminate : Int := 15

/-- Sends a signal to a process, here or on a host. -/
def killProcess (pid : Nat) (host : Option String) (signal : Option Int) : Op σ Unit := do
  let line := "kill -" ++ decimal (signal.getD terminate) ++ " " ++ pid.repr
  match host with
  | some h =>
    discard (run { name := "kill process on a given host", line, host := some h })
  | none => discard (run (← localCommand "kill process" line))

end ClusterFixture.Op
