import CrateGraph.Machine
import CrateGraph.Process.Program

/-!
# The files of a system

What is on a machine before anyone works on it: the programs that scripts are made of, the
devices, and the directories for both.
-/

namespace CrateGraph

namespace FileTree

/-- The directories of a system. -/
def systemDirs : List (List String) :=
  [["dev"], ["etc"], ["home"], ["mnt"], ["opt"], ["proc"], ["root"], ["run"], ["srv"], ["sys"],
    ["tmp"], ["usr"], ["usr", "bin"], ["usr", "lib"], ["usr", "local"], ["usr", "local", "bin"],
    ["usr", "sbin"], ["usr", "share"], ["var"], ["var", "tmp"]]

/-- The links of a system. -/
def systemLinks : List (List String × String) :=
  [(["bin"], "usr/bin"), (["lib"], "usr/lib"), (["sbin"], "usr/sbin"), (["usr", "bin", "sh"], "dash"),
    (["var", "run"], "/run")]

/-- The users of a system. -/
def systemUsers : String :=
  "root:x:0:0:root:/root:/bin/bash\ndaemon:x:1:1:daemon:/usr/sbin:/usr/sbin/nologin\n"

/-- The devices of a system. -/
def systemDevices : List (String × Device) :=
  [("null", .null), ("zero", .zero), ("full", .full), ("random", .noise), ("urandom", .noise),
    ("tty", .terminal), ("stdin", .stream 0), ("stdout", .stream 1), ("stderr", .stream 2)]

/-- The files of a system. -/
def system : FileTree where
  nodes := systemDirs.map (fun names => (locationOf names, .dir))
    ++ systemDevices.map (fun d => (locationOf ["dev", d.1], .device d.2))
    ++ Shell.programNames.map (fun name => (locationOf ["usr", "bin", name], .program name))
    ++ systemLinks.map (fun l => (locationOf l.1, .link (.ofText l.2)))
    ++ [(locationOf ["etc", "passwd"], .file (Text.toBytes systemUsers) .plain)]

end FileTree

/-- The directories in which the programs of a system are. -/
def systemPath : List Path := [.ofText "/usr/bin", .ofText "/bin"]

end CrateGraph
