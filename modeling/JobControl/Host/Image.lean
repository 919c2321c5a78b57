import JobControl.Host.Exec

/-!
# The host's file tree at start

A small Linux tree with merged `/usr`: `/bin`, `/sbin` and `/lib` are links into `/usr`; the
programs are in `/usr/bin` and `/usr/sbin` (with `sh` a link to `dash`); `/etc/passwd` is
readable by all and executable by none; `/tmp` is open to all; `/dev/null` is the null device;
`/proc` shows the processes.
-/

namespace JobControl.Host

namespace Image

/-- The programs in `/usr/bin`. -/
def binNames : List String :=
  ["[", "arch", "awk", "b2sum", "base32", "base64", "basename", "basenc", "bash", "cat", "chgrp",
    "chmod", "chown", "cksum", "clear", "cmp", "comm", "cp", "csplit", "cut", "dash", "date", "dd",
    "df", "diff", "dir", "dircolors", "dirname", "du", "echo", "egrep", "env", "expand", "expr",
    "factor", "false", "fgrep", "find", "fmt", "fold", "getent", "getopt", "grep",
    "groups", "gunzip", "gzip", "head", "hostid", "hostname", "id", "install", "join", "ldd", "less", "link", "ln", "logger", "login", "logname", "ls", "mawk", "md5sum", "mkdir",
    "mkfifo", "mknod", "mktemp", "more", "mount", "mv", "nice", "nl", "nohup", "nproc", "numfmt",
    "od", "passwd", "paste", "pathchk", "perl", "pinky", "pr",
    "printenv", "printf", "ptx", "pwd", "readlink", "realpath", "rev", "rm", "rmdir",
    "runcon", "script", "sed", "seq", "setsid", "sha1sum", "sha224sum", "sha256sum", "sha384sum",
    "sha512sum", "shred", "shuf", "sleep", "sort", "split", "stat", "stdbuf", "stty", "su", "sum",
    "sync", "tac", "tail", "tar", "tee", "test", "timeout", "touch", "tr", "true",
    "truncate", "tsort", "tty", "umount", "uname", "unexpand", "uniq", "unlink", "users", "vdir", "wc", "which", "who", "whoami", "xargs", "yes", "zcat"]

/-- The programs in `/usr/sbin`. -/
def sbinNames : List String :=
  ["adduser", "chroot", "groupadd", "ldconfig", "nologin", "useradd", "userdel", "usermod"]

/-- The lines of `/etc/passwd`. -/
def passwd : String :=
  "root:x:0:0:root:/root:/bin/bash\n" ++
  "daemon:x:1:1:daemon:/usr/sbin:/usr/sbin/nologin\n" ++
  "bin:x:2:2:bin:/bin:/usr/sbin/nologin\n" ++
  "sys:x:3:3:sys:/dev:/usr/sbin/nologin\n" ++
  "sync:x:4:65534:sync:/bin:/bin/sync\n" ++
  "games:x:5:60:games:/usr/games:/usr/sbin/nologin\n" ++
  "man:x:6:12:man:/var/cache/man:/usr/sbin/nologin\n" ++
  "lp:x:7:7:lp:/var/spool/lpd:/usr/sbin/nologin\n" ++
  "mail:x:8:8:mail:/var/mail:/usr/sbin/nologin\n" ++
  "news:x:9:9:news:/var/spool/news:/usr/sbin/nologin\n" ++
  "uucp:x:10:10:uucp:/var/spool/uucp:/usr/sbin/nologin\n" ++
  "proxy:x:13:13:proxy:/bin:/usr/sbin/nologin\n" ++
  "www-data:x:33:33:www-data:/var/www:/usr/sbin/nologin\n" ++
  "backup:x:34:34:backup:/var/backups:/usr/sbin/nologin\n" ++
  "list:x:38:38:Mailing List Manager:/var/list:/usr/sbin/nologin\n" ++
  "irc:x:39:39:ircd:/run/ircd:/usr/sbin/nologin\n" ++
  "_apt:x:42:65534::/nonexistent:/usr/sbin/nologin\n" ++
  "nobody:x:65534:65534:nobody:/nonexistent:/usr/sbin/nologin\n"

/-- Adds a node at an absolute path whose directory exists. -/
def place (fs : Files) (path : String) (i : Inode) : Files :=
  match fs.locate "/" path with
  | .ok (.missing d _ name) => (fs.create d name i).2
  | _ => fs

/-- A directory node. -/
def dir (mode : Nat) : Inode := ⟨.dir [], mode, false, 0⟩

/-- The tree at start. -/
def files : Files :=
  let fs : Files := ⟨#[dir 0o755], 0⟩
  let dirs : List (String × Nat) :=
    [("/usr", 0o755), ("/usr/bin", 0o755), ("/usr/sbin", 0o755), ("/usr/lib", 0o755),
      ("/usr/local", 0o755), ("/usr/local/bin", 0o755), ("/usr/local/sbin", 0o755),
      ("/usr/local/lib", 0o755), ("/usr/share", 0o755), ("/etc", 0o755), ("/tmp", 0o1777),
      ("/root", 0o700), ("/home", 0o755), ("/dev", 0o755), ("/proc", 0o555), ("/var", 0o755),
      ("/var/tmp", 0o1777), ("/opt", 0o755), ("/srv", 0o755), ("/mnt", 0o755), ("/run", 0o755),
      ("/boot", 0o755), ("/media", 0o755), ("/sys", 0o555)]
  let fs := dirs.foldl (fun fs (p, mode) => place fs p (dir mode)) fs
  let links : List (String × String) :=
    [("/bin", "usr/bin"), ("/sbin", "usr/sbin"), ("/lib", "usr/lib"), ("/usr/bin/sh", "dash")]
  let fs := links.foldl (fun fs (p, target) => place fs p ⟨.link target, 0o777, false, 0⟩) fs
  let fs := binNames.foldl (fun fs name =>
    place fs ("/usr/bin/" ++ name) ⟨.file (Exec.binary name), 0o755, false, 0⟩) fs
  let fs := sbinNames.foldl (fun fs name =>
    place fs ("/usr/sbin/" ++ name) ⟨.file (Exec.binary name), 0o755, false, 0⟩) fs
  let fs := place fs "/dev/null" ⟨.null, 0o666, false, 0⟩
  let fs := place fs "/etc/passwd" ⟨.file passwd.toUTF8, 0o644, false, 0⟩
  let fs := place fs "/etc/hostname" ⟨.file "localhost\n".toUTF8, 0o644, false, 0⟩
  place fs "/etc/shells" ⟨.file "/bin/sh\n/usr/bin/sh\n/bin/bash\n/usr/bin/bash\n/bin/dash\n/usr/bin/dash\n".toUTF8, 0o644, false, 0⟩

end Image

namespace Machine

/-- The pid of the shell. -/
def shellPid : Int32 := 1000

/-- A machine whose only process is the shell, in directory `cwd`, with its three standard
streams on the null device. -/
def boot (env : Environment) (loader : Loader) (cwd : String) : Machine :=
  let shell : Proc := ⟨shellPid, 1, shellPid, "jobsh", cwd, [(0, 0), (1, 0), (2, 0)],
    env.vars, .done 0, .running, none, true, [], [], [], [], false⟩
  ⟨Image.files, #[⟨.null, 3⟩], #[], [shell], shellPid + 1, 0, shellPid, false, env, loader⟩

/-- Creates the directories of an absolute path that are missing. -/
def makeDirs (m : Machine) (path : String) : Machine :=
  let (cs, _) := Files.components path
  let (_, m) := cs.foldl (fun (acc : String × Machine) c =>
    let p := acc.1 ++ "/" ++ c
    let m := acc.2
    match m.files.locate "/" p with
    | .ok (.missing d _ name) =>
      let (_, files) := m.files.create d name ⟨.dir [], 0o755, true, 0⟩
      (p, { m with files := files })
    | _ => (p, m)) ("", m)
  m

/-- Writes a file with mode 0644, replacing what was there. -/
def writeFile (m : Machine) (path : String) (content : ByteArray) : Machine :=
  match m.files.locate "/" path with
  | .ok (.missing d _ name) => { m with files := (m.files.create d name ⟨.file content, 0o644, true, 0⟩).2 }
  | .ok (.existing n _) => { m with files := (m.files.truncate n).writeAt n 0 content }
  | .error _ => m

/-- The regular files directly in a directory, by name, with their bytes; a file the user may
not read shows no bytes. -/
def filesIn (m : Machine) (path : String) : List (String × ByteArray) :=
  match m.files.lookup "/" path true with
  | .ok (n, _) =>
    (m.files.entries n).filterMap fun (name, k) =>
      match m.files.get? k with
      | some i =>
        match i.node with
        | .file d => some (name, if i.allows 4 then d else ByteArray.empty)
        | _ => none
      | none => none
  | .error _ => []

end Machine

end JobControl.Host
