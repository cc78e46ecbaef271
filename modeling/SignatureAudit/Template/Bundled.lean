import SignatureAudit.Template.Load

/-!
# The bundled templates

A literal for every type of the Meson build language, and overrides for the callables that accept
only particular values. Keys stand in ascending order, as in every loaded document.
-/

namespace SignatureAudit.Template.Bundled

/-- The defaults from `Array` to `ConfiguredFile`. -/
def defaultsArray : List (String × String) :=
  [("Array", "[ 'str', 1, true ]"),
   ("Array[Boolean]", "[ true, false ]"),
   ("Array[CustomTarget]",
    "[custom_target($RANDOM_STRING$, output : 'bar.c', input : 'bar.txt', command : [ find_program('script.py'), '@INPUT@', '@OUTPUT@'])]"),
   ("Array[Dependency]", "[ declare_dependency(), declare_dependency() ]"),
   ("Array[ExternalFile]", "files('foo.c', 'bar.c')"),
   ("Array[File]", "files('foo.c', 'bar.c')"),
   ("Array[IncludeDirectory]", "include_directories('include')"),
   ("Array[Library]", "[ library($RANDOM_STRING$, 'foo.c') ]"),
   ("Array[Number]", "[ 1, 2, 3 ]"),
   ("Array[String]", "[ 'foo', 'bar' ]"),
   ("Array[Target]",
    "[ build_target($RANDOM_STRING$, sources : ['foo.c'], target_type : 'executable') ]"),
   ("Array[Union[Dependency, String]]", "[ declare_dependency(), 'foo' ]"),
   ("Array[Union[ExternalLibrary, CustomTarget]]",
    "[ meson.get_compiler('c').find_library('m', required : false) ]"),
   ("Array[Union[File, String, Target]]",
    "[ files('foo.c')[0], 'bar.c', build_target($RANDOM_STRING$, sources : ['foo.c'], target_type : 'executable') ]"),
   ("Array[Union[File, String]]", "[ files('foo.c')[0], 'bar.c' ]"),
   ("Array[Union[IncludeDirectory, String]]", "[ include_directories('include'), 'include' ]"),
   ("Array[Union[Library, CustomTarget, CustomTargetIndex]]",
    "[ library($RANDOM_STRING$, 'foo.c') ]"),
   ("Array[Union[Library, CustomTarget]]", "[ library($RANDOM_STRING$, 'foo.c') ]"),
   ("Array[Union[String, Executable]]",
    "[ 'script.py', build_target($RANDOM_STRING$, sources : ['foo.c'], target_type : 'executable') ]"),
   ("Array[Union[String, File, Target]]",
    "[ files('foo.c')[0], 'bar.c', build_target($RANDOM_STRING$, sources : ['foo.c'], target_type : 'executable') ]"),
   ("Array[Union[String, File]]", "[ files('foo.c')[0], 'bar.c' ]"),
   ("Array[Union[String, Number]]", "[ 'str', 2 ]"),
   ("Array[Union[String, Target]]",
    "[ 'bar.c', build_target($RANDOM_STRING$, sources : ['foo.c'], target_type : 'executable') ]"),
   ("Boolean", "true"),
   ("BothLibraries", "both_libraries($RANDOM_STRING$, sources : 'foo.c')"),
   ("BuildMachine", "build_machine"),
   ("BuildTarget",
    "build_target($RANDOM_STRING$, sources : ['foo.c'], target_type : 'executable')"),
   ("CompilationRunResult", "meson.get_compiler('c').run('foo.c')"),
   ("Compiler", "meson.get_compiler('c')"),
   ("ConfigurationData", "configuration_data(\x7b 'foo' : 1, 'bar' : false \x7d)"),
   ("ConfiguredFile",
    "configure_file(input : 'config.h.in', output: 'config.h', configuration: configuration_data())")]

/-- The defaults from `CustomTarget` to `TargetMachine`. -/
def defaultsCustomTarget : List (String × String) :=
  [("CustomTarget",
    "custom_target($RANDOM_STRING$, output : 'bar.c', input : 'bar.txt', command : [ find_program('script.py'), '@INPUT@', '@OUTPUT@'])"),
   ("CustomTargetIndex",
    "custom_target($RANDOM_STRING$, output : 'bar.c', input : 'bar.txt', command : [ find_program('script.py'), '@INPUT@', '@OUTPUT@'])[0]"),
   ("Dependency", "declare_dependency()"),
   ("Dict", "\x7b 'foo' : 1, 'bar' : 2 \x7d"),
   ("Disabler", "disabler()"),
   ("Environment", "environment()"),
   ("Executable", "executable($RANDOM_STRING$, sources : ['foo.c'])"),
   ("ExternalFile", "files('foo.c')[0]"),
   ("ExternalLibrary", "meson.get_compiler('c').find_library('m', required : false)"),
   ("ExternalProgram", "find_program('python3')"),
   ("FeatureOption", "get_option('ft')"),
   ("File", "files('foo.c')[0]"),
   ("Generator",
    "generator(executable($RANDOM_STRING$, sources: 'foo.c'), arguments : [ 'foo', '@EXTRA_ARGS@' ], output : '@BASENAME@')"),
   ("GeneratorTarget",
    "generator(find_program('script.py'), output : '@BASENAME@.c', arguments : [ '@INPUT@' ]).process('foo.c')"),
   ("HostMachine", "host_machine"),
   ("IncludeDirectory", "include_directories('include')"),
   ("Jar", "jar($RANDOM_STRING$, sources: 'foo.java')"),
   ("Library", "library($RANDOM_STRING$, sources : 'foo.c')"),
   ("Meson", "meson"),
   ("Module", "import('keyval')"),
   ("Number", "42"),
   ("Range", "range(0,10,1)"),
   ("RunResult", "run_command(find_program('script.py'), [])"),
   ("RunTarget", "run_target($RANDOM_STRING$, command : ['meson'])"),
   ("SharedLibrary", "shared_library($RANDOM_STRING$, sources : 'foo.c')"),
   ("SharedModule", "shared_module($RANDOM_STRING$, sources : 'foo.c')"),
   ("StaticLibrary", "static_library($RANDOM_STRING$, sources : 'foo.c')"),
   ("String", "'String'"),
   ("Subproject", "subproject('foo_project')"),
   ("Target", "build_target($RANDOM_STRING$, sources : ['foo.c'], target_type : 'executable')"),
   ("TargetMachine", "target_machine")]

/-- Every default. -/
def defaults : List (String × String) := defaultsArray ++ defaultsCustomTarget

/-- The overrides from `Array.__getitem__` to `Meson.get_compiler`. -/
def overridesArrayGetitem : List (String × OverrideEntry) :=
  [("Array.__getitem__", { receiver := some "[ 1, 2, 3]", params := [("index", "0")] }),
   ("Array.get", { receiver := some "[ 1, 2, 3]", params := [("index", "0")] }),
   ("BothLibraries.extract_objects", { params := [("sources", "[]")] }),
   ("BuildTarget.extract_objects", { params := [("sources", "'foo.c'")] }),
   ("Compiler.alignment", { params := [("args", "[]"), ("type_name", "'int'")] }),
   ("Compiler.check_header", {
      params := [("dependencies", "[]"), ("header_name", "'stdio.h'"), ("prefix", "''"),
        ("required", "false")] }),
   ("Compiler.compute_int", { params := [("expr", "'1 + 2'")] }),
   ("Compiler.get_supported_function_attributes", {
      params := [("list_of_names", "[ 'error' ]")] }),
   ("Compiler.has_function_attribute", { params := [("name", "'error'")] }),
   ("Compiler.has_header", {
      params := [("args", "[ '-Werror' ]"), ("dependencies", "[]"), ("header_name", "'stdio.h'"),
        ("prefix", "''")]
      typedParams := [⟨"required", "Boolean", "false"⟩] }),
   ("Compiler.has_header_symbol", {
      params := [("args", "[ '-Werror' ]"), ("dependencies", "[]"), ("header_name", "'stdio.h'"),
        ("prefix", "''"), ("symbol_name", "'printf'")]
      typedParams := [⟨"required", "Boolean", "false"⟩] }),
   ("ConfigurationData.get", {
      receiver := some "configuration_data(\x7b 'foo' : 1, 'bar' : false \x7d)"
      params := [("var_name", "'foo'")] }),
   ("ConfigurationData.get_unquoted", {
      receiver := some "configuration_data(\x7b 'foo' : 1, 'bar' : false \x7d)"
      params := [("var_name", "'foo'")] }),
   ("CustomTarget.__getitem__", { params := [("index", "0")] }),
   ("Dependency.as_system", { params := [("value", "'preserve'")] }),
   ("Dict.get", { params := [("key", "'foo'")] }),
   ("Generator.process", {
      params := [("extra_args", "[ 'bar' ]"), ("preserve_path_from", "'/'")] }),
   ("Meson.add_dist_script", {
      typedParams := [⟨"script_name", "String", "'script.py'"⟩,
        ⟨"script_name", "File", "files('script.py')[0]"⟩] }),
   ("Meson.add_install_script", {
      typedParams := [⟨"script_name", "String", "'script.py'"⟩,
        ⟨"script_name", "File", "files('script.py')[0]"⟩] }),
   ("Meson.add_postconf_script", {
      typedParams := [⟨"script_name", "String", "'script.py'"⟩,
        ⟨"script_name", "File", "files('script.py')[0]"⟩] }),
   ("Meson.get_compiler", { params := [("language", "'c'")] })]

/-- The overrides from `Range.__getitem__` to `files`. -/
def overridesRangeGetitem : List (String × OverrideEntry) :=
  [("Range.__getitem__", { params := [("index", "0")] }),
   ("String.join", { params := [("list_of_strings", "[ 'str1', 'str2' ]")] }),
   ("String.to_int", { receiver := some "'42'" }),
   ("add_global_arguments", {
      typedParams := [⟨"language", "String", "'c'"⟩,
        ⟨"language", "Array[String]", "['c', 'cpp']"⟩] }),
   ("add_global_link_arguments", {
      typedParams := [⟨"language", "String", "'c'"⟩,
        ⟨"language", "Array[String]", "['c', 'cpp']"⟩] }),
   ("add_languages", {
      typedParams := [⟨"langs", "String", "'c'"⟩, ⟨"langs", "Array[String]", "['c', 'cpp']"⟩] }),
   ("add_project_arguments", {
      typedParams := [⟨"language", "String", "'c'"⟩,
        ⟨"language", "Array[String]", "['c', 'cpp']"⟩] }),
   ("add_project_link_arguments", {
      typedParams := [⟨"language", "String", "'c'"⟩,
        ⟨"language", "Array[String]", "['c', 'cpp']"⟩] }),
   ("add_test_setup", {
      typedParams := [⟨"env", "Array[String]", "['key1=val1', 'key2=val2']"⟩,
        ⟨"env", "Dict", "\x7b 'key1' : 'value1', 'key2' : 'value2' \x7d"⟩] }),
   ("benchmark", {
      params := [("name", "$RANDOM_STRING$"), ("protocol", "'exitcode'"),
        ("workdir", "$BUILDFILE_DIR$")]
      typedParams := [⟨"executable", "ExternalFile", "files('script.py')[0]"⟩,
        ⟨"env", "Array[String]", "['key1=val1', 'key2=val2']"⟩,
        ⟨"env", "Dict", "\x7b 'key1' : 'value1', 'key2' : 'value2' \x7d"⟩] }),
   ("both_libraries", {
      params := [("install_mode", "'rwxr-xr-x'"), ("library_name", "$RANDOM_STRING$"),
        ("link_whole", "[ static_library($RANDOM_STRING$, 'foo.c') ]"),
        ("link_with", "[ static_library($RANDOM_STRING$, 'foo.c') ]"),
        ("override_options", "[ 'key1=value1', 'key2=value2' ]")]
      typedParams := [⟨"sources", "String", "'foo.c'"⟩] }),
   ("build_target", {
      params := [("gnu_symbol_visibility", "''"), ("install_mode", "'rwxr-xr-x'"),
        ("link_language", "'c'"), ("link_whole", "[ static_library($RANDOM_STRING$, 'foo.c') ]"),
        ("link_with", "[ static_library($RANDOM_STRING$, 'foo.c') ]"),
        ("name", "$RANDOM_STRING$"), ("override_options", "[ 'key1=value1', 'key2=value2' ]"),
        ("target_type", "'executable'"), ("win_subsystem", "'console'")]
      typedParams := [⟨"sources", "String", "'foo.c'"⟩] }),
   ("configuration_data", { params := [("dict", "\x7b 'foo' : 1, 'bar' : false \x7d")] }),
   ("configure_file", {
      params := [("format", "'meson'"), ("install_mode", "'rwxr-xr-x'"), ("output_format", "'c'")]
      typedParams := [⟨"depfile", "String", "'foo.c'"⟩, ⟨"input", "String", "'bar.c'"⟩] }),
   ("custom_target", {
      params := [("install_mode", "'rwxr-xr-x'"), ("name", "$RANDOM_STRING$")]
      typedParams := [⟨"env", "Array[String]", "['key1=val1', 'key2=val2']"⟩,
        ⟨"env", "Dict", "\x7b 'key1' : 'value1', 'key2' : 'value2' \x7d"⟩] }),
   ("declare_dependency", {
      typedParams := [⟨"variables", "Dict", "\x7b 'key1' : 'value1', 'key2' : 'value2' \x7d"⟩,
        ⟨"variables", "Array[String]", "[ 'key1=value1', 'key2=value2' ]"⟩,
        ⟨"include_directories", "String", "'include'"⟩] }),
   ("dependency", {
      params := [("default_options", "[ 'key1=value1', 'key2=value2' ]"),
        ("dependency_name", "'netcdf'"), ("include_type", "'preserve'"), ("language", "'c'"),
        ("method", "'auto'"), ("required", "false")]
      typedParams := [⟨"fallback", "String", "'foo_project'"⟩,
        ⟨"fallback", "Array[String]", "[ 'foo_project', 'foo_dep' ]"⟩] }),
   ("environment", { params := [("dict", "\x7b 'key1' : 'value1', 'key2' : 'value2' \x7d")] }),
   ("error", { params := [("message", "'$IGNORE$'")] }),
   ("executable", {
      params := [("exe_name", "$RANDOM_STRING$"), ("gnu_symbol_visibility", "''"),
        ("install_mode", "'rwxr-xr-x'"), ("link_language", "'c'"),
        ("link_whole", "[ static_library($RANDOM_STRING$, 'foo.c') ]"),
        ("link_with", "[ static_library($RANDOM_STRING$, 'foo.c') ]"),
        ("override_options", "[ 'key1=value1', 'key2=value2' ]"), ("win_subsystem", "'console'")]
      typedParams := [⟨"sources", "String", "'foo.c'"⟩] }),
   ("files", { params := [("list_of_files", "'foo.c'")] })]

/-- The overrides from `find_program` to `test`. -/
def overridesFindProgram : List (String × OverrideEntry) :=
  [("find_program", {
      params := [("dirs", "$BUILDFILE_DIR$"), ("program_names", "'script.py'"),
        ("version", "'1.0'")] }),
   ("generator", { params := [("output", "'@BASENAME@.c'")] }),
   ("get_option", { params := [("option_name", "'ft'")] }),
   ("import", { params := [("name", "'keyval'")] }),
   ("include_directories", { params := [("directory_names", "'include'")] }),
   ("install_data", { params := [("install_mode", "'rwxr-xr-x'")] }),
   ("install_headers", { params := [("install_mode", "'rwxr-xr-x'")] }),
   ("install_man", {
      params := [("install_mode", "'rwxr-xr-x'")]
      typedParams := [⟨"list_of_manpages", "String", "'manpage.6'"⟩,
        ⟨"list_of_manpages", "ExternalFile", "files('manpage.6')[0]"⟩] }),
   ("install_subdir", {
      params := [("install_mode", "'rwxr-xr-x'"), ("subdir_name", "'subdir'")] }),
   ("jar", {
      params := [("gnu_symbol_visibility", "''"), ("install_mode", "'rwxr-xr-x'"),
        ("jar_name", "$RANDOM_STRING$"), ("link_language", "'c'"),
        ("link_whole", "[ static_library($RANDOM_STRING$, 'foo.c') ]"),
        ("link_with", "[ static_library($RANDOM_STRING$, 'foo.c') ]"),
        ("override_options", "[ 'key1=value1', 'key2=value2' ]")]
      typedParams := [⟨"sources", "String", "'foo.java'"⟩,
        ⟨"sources", "Array[Union[String, File]]", "[ 'foo.java', files('foo.java')[0] ]"⟩] }),
   ("library", {
      params := [("gnu_symbol_visibility", "''"), ("install_mode", "'rwxr-xr-x'"),
        ("library_name", "$RANDOM_STRING$"), ("link_language", "'c'"),
        ("link_whole", "[ static_library($RANDOM_STRING$, 'foo.c') ]"),
        ("link_with", "[ static_library($RANDOM_STRING$, 'foo.c') ]"),
        ("override_options", "[ 'key1=value1', 'key2=value2' ]")]
      typedParams := [⟨"sources", "String", "'foo.c'"⟩] }),
   ("project", {
      params := [("default_options", "[ 'key1=value1', 'key2=value2' ]"),
        ("list_of_languages", "'c'"), ("meson_version", "'>=0.55.0'")] }),
   ("range", { params := [("start", "0"), ("step", "1"), ("stop", "10")] }),
   ("run_command", {
      params := [("check", "false")]
      typedParams := [⟨"env", "Array[String]", "[ 'key1=value1', 'key2=value2' ]"⟩,
        ⟨"env", "Dict", "\x7b 'key1' : 'value1', 'key2' : 'value2' \x7d"⟩,
        ⟨"command", "String", "'script.py'"⟩, ⟨"command", "Array[File]", "files('script.py')"⟩] }),
   ("run_target", {
      params := [("command", "[ 'script.py', build_target($RANDOM_STRING$, sources : ['foo.c'], target_type : 'executable') ]"),
        ("target_name", "$RANDOM_STRING$")]
      typedParams := [⟨"env", "Array[String]", "[ 'key1=value1', 'key2=value2' ]"⟩,
        ⟨"env", "Dict", "\x7b 'key1' : 'value1', 'key2' : 'value2' \x7d"⟩] }),
   ("shared_library", {
      params := [("gnu_symbol_visibility", "''"), ("install_mode", "'rwxr-xr-x'"),
        ("library_name", "$RANDOM_STRING$"), ("link_language", "'c'"),
        ("link_whole", "[ static_library($RANDOM_STRING$, 'foo.c') ]"),
        ("link_with", "[ static_library($RANDOM_STRING$, 'foo.c') ]"),
        ("override_options", "[ 'key1=value1', 'key2=value2' ]"), ("soversion", "'0'"),
        ("version", "'1.0.0'")]
      typedParams := [⟨"sources", "String", "'foo.c'"⟩, ⟨"darwin_versions", "Number", "1"⟩,
        ⟨"darwin_versions", "String", "'1'"⟩, ⟨"darwin_versions", "Array[String]", "[ '1' ]"⟩,
        ⟨"vs_module_defs", "String", "'bar.txt'"⟩] }),
   ("shared_module", {
      params := [("gnu_symbol_visibility", "''"), ("install_mode", "'rwxr-xr-x'"),
        ("link_language", "'c'"), ("link_whole", "[ static_library($RANDOM_STRING$, 'foo.c') ]"),
        ("link_with", "[ static_library($RANDOM_STRING$, 'foo.c') ]"),
        ("module_name", "$RANDOM_STRING$"),
        ("override_options", "[ 'key1=value1', 'key2=value2' ]")]
      typedParams := [⟨"sources", "String", "'foo.c'"⟩, ⟨"vs_module_defs", "String", "'bar.txt'"⟩] }),
   ("static_library", {
      params := [("gnu_symbol_visibility", "''"), ("install_mode", "'rwxr-xr-x'"),
        ("library_name", "$RANDOM_STRING$"), ("link_language", "'c'"),
        ("link_whole", "[ static_library($RANDOM_STRING$, 'foo.c') ]"),
        ("link_with", "[ static_library($RANDOM_STRING$, 'foo.c') ]"),
        ("override_options", "[ 'key1=value1', 'key2=value2' ]")]
      typedParams := [⟨"sources", "String", "'foo.c'"⟩] }),
   ("subdir", { params := [("dir_name", "'subdir'")] }),
   ("subproject", {
      params := [("default_options", "[ 'key1=value1', 'key2=value2' ]"),
        ("subproject_name", "'foo_project'"), ("version", "'>=1.0'")] }),
   ("test", {
      params := [("name", "$RANDOM_STRING$"), ("protocol", "'exitcode'"),
        ("should_fail", "false"), ("workdir", "$BUILDFILE_DIR$")]
      typedParams := [⟨"executable", "ExternalFile", "files('script.py')[0]"⟩,
        ⟨"env", "Array[String]", "['key1=val1', 'key2=val2']"⟩,
        ⟨"env", "Dict", "\x7b 'key1' : 'value1', 'key2' : 'value2' \x7d"⟩] })]

/-- Every override. -/
def overrides : List (String × OverrideEntry) :=
  overridesArrayGetitem ++ overridesRangeGetitem ++ overridesFindProgram

/-- The whole document. -/
def document : Document where
  defaults := defaults
  overrides := overrides

end SignatureAudit.Template.Bundled

/-- The bundled templates. -/
def SignatureAudit.Template.bundled :
    Except SignatureAudit.Template.Fault SignatureAudit.Templates :=
  ofDocument Bundled.document
