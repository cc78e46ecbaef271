import SignatureAudit.Catalog.Load

/-!
# The bundled catalog

The functions and types of the Meson build language, in the notation of catalog documents. Types
are listed with the methods that they declare themselves; inherited methods are not repeated.
-/

namespace SignatureAudit.Catalog.Bundled

/-- The keywords that every build target takes. -/
def buildTargetKwargs : List String :=
  ["build_by_default: Boolean = None", "build_rpath: String = None",
   "dependencies: Array[Dependency] = None", "extra_files: Array[File] = None",
   "link_args: Array[String] = None", "link_depends: Array[Union[String, File]] = None",
   "link_language: String = None",
   "link_with: Array[Union[Library, CustomTarget, CustomTargetIndex]] = None",
   "implicit_include_directories: Boolean = None",
   "include_directories: Array[Union[IncludeDirectory, String]]", "install: Boolean = None",
   "install_dir: String = None", "install_mode: String = None", "install_rpath: String = None",
   "objects: Array[File] = None", "override_options: Array[String] = None",
   "gnu_symbol_visibility: String = None",
   "d_import_dirs: Union[Array[IncludeDirectory], Array[Union[IncludeDirectory, String]]] = None",
   "d_unittest: Boolean = None", "d_module_versions: Array[String] = None",
   "d_debug: Array[String] = None", "native: Boolean = None"]

/-- The keywords of the checks that run the compiler. -/
def compilerCheckKwargs : List String :=
  ["dependencies: Array[Dependency] = None", "prefix: String = None",
   "no_builtin_args: Boolean = None", "args: Array[Union[String, File]] = None"]

/-- The keywords of tests and benchmarks. -/
def testKwargs : List String :=
  ["args: Array[Union[File, String, Target]] = None",
   "env: Union[Array[String], Environment, Dict] = None", "should_fail: Boolean = None",
   "suite: Union[String, Array[String]] = None", "timeout: Number = None",
   "workdir: String = None", "depends: Array[Target] = None", "protocol: String = None",
   "priority: Number = None"]

/-- The keywords that choose parts of a dependency. -/
def partialDependencyKwargs : List String :=
  ["compile_args: Boolean = None", "link_args: Boolean = None", "links: Boolean = None",
   "includes: Boolean = None", "sources: Boolean = None"]

/-- The functions from `add_global_arguments` to `configure_file`. -/
def functionsAddGlobalArguments : List CallableEntry :=
  [⟨"add_global_arguments", ["*args: String", "language: Union[String, Array[String]] = None",
     "native: Boolean = None"], "None"⟩,
   ⟨"add_global_link_arguments", ["*args: String",
     "language: Union[String, Array[String]] = None", "native: Boolean = None"], "None"⟩,
   ⟨"add_languages", ["*langs: Union[String, Array[String]]",
     "required: Union[Boolean, FeatureOption] = None", "native: Boolean = None"], "Boolean"⟩,
   ⟨"add_project_arguments", ["*args: String", "language: Union[String, Array[String]] = None",
     "native: Boolean = None"], "None"⟩,
   ⟨"add_project_link_arguments", ["*args: String",
     "language: Union[String, Array[String]] = None", "native: Boolean = None"], "None"⟩,
   ⟨"add_test_setup", ["name: String", "env: Union[Array[String], Environment, Dict] = None",
     "exe_wrapper: Array[String] = None", "gdb: Boolean = None",
     "timeout_multiplier: Number = None", "is_default: Boolean = None",
     "exclude_suites: Array[String] = None"], "None"⟩,
   ⟨"alias_target", ["target_name: String", "*depends: Target"], "RunTarget"⟩,
   ⟨"assert", ["condition: Boolean", "message: Optional[String]"], "None"⟩,
   ⟨"benchmark", ["name: String",
     "executable: Union[Executable, ExternalProgram, Jar, CustomTarget, CustomTargetIndex, GeneratorTarget, ExternalFile]",
     "..test_kwargs"], "None"⟩,
   ⟨"both_libraries", ["library_name: String",
     "*sources: Union[String, Array[Union[String, File]]]", "..build_target_kwargs",
     "link_whole: Array[Union[Library, CustomTarget, CustomTargetIndex]] = None",
     "name_prefix: String = None", "name_suffix: String = None", "rust_crate_type: String = None"],
    "BothLibraries"⟩,
   ⟨"build_target", ["name: String", "*sources: Union[String, Array[Union[String, File]]]",
     "..build_target_kwargs", "link_whole: Boolean = None", "export_dynamic: Boolean = None",
     "implib: Union[Boolean, String] = None", "name_suffix: String = None", "pie: Boolean = None",
     "win_subsystem: String = None", "target_type: String = None"], "BuildTarget"⟩,
   ⟨"configuration_data", ["dict: Optional[Dict]"], "ConfigurationData"⟩,
   ⟨"configure_file", ["capture: Boolean = None", "command: Array[Union[String, File]] = None",
     "depfile: Union[File, String] = None", "format: String = None",
     "input: Union[File, String] = None", "install: Boolean = None", "install_dir: String = None",
     "install_mode: String = None", "output: String = None", "output_format: String = None",
     "encoding: String = None"], "ConfiguredFile"⟩,
   ⟨"configure_file", ["copy: Boolean = None", "depfile: Union[File, String] = None",
     "format: String = None", "input: Union[File, String] = None", "install: Boolean = None",
     "install_dir: String = None", "install_mode: String = None", "output: String = None",
     "output_format: String = None", "encoding: String = None"], "ConfiguredFile"⟩]

/-- The functions from `custom_target` to `include_directories`. -/
def functionsCustomTarget : List CallableEntry :=
  [⟨"custom_target", ["name: String", "build_by_default: Boolean = None",
     "build_always_stale: Boolean = None", "capture: Boolean = None", "console: Boolean = None",
     "command: Union[String, ExternalProgram, Array[File]] = None",
     "depend_files: Array[Union[File, String]] = None", "depends: Boolean = None",
     "depfile: File = None", "input: Array[File] = None", "install: Boolean = None",
     "install_dir: String = None", "install_mode: String = None", "output: Array[File] = None",
     "env: Union[Array[String], Environment, Dict] = None"], "CustomTarget"⟩,
   ⟨"declare_dependency", ["compile_args: Array[String] = None",
     "dependencies: Array[Dependency] = None",
     "include_directories: Array[Union[IncludeDirectory, String]] = None",
     "link_args: Array[String] = None", "link_with: Array[Library] = None",
     "link_whole: Array[Library] = None", "sources: Array[File] = None", "version: String = None",
     "variables: Union[Dict, Array[String]] = None"], "Dependency"⟩,
   ⟨"dependency", ["dependency_name: String", "default_options: Array[String] = None",
     "allow_fallback: Boolean = None", "fallback: Union[String, Array[String]] = None",
     "language: String = None", "method: String = None", "native: Boolean = None",
     "not_found_message: String = None", "required: Union[Boolean, FeatureOption] = None",
     "static: Boolean = None", "version: String = None", "include_type: String = None",
     "disabler: Boolean = None"], "Dependency"⟩,
   ⟨"disabler", [], "Disabler"⟩,
   ⟨"error", ["*message: String"], "None"⟩,
   ⟨"environment", ["dict: Optional[Dict]"], "Environment"⟩,
   ⟨"executable", ["exe_name: String", "*sources: Union[String, Array[Union[String, File]]]",
     "..build_target_kwargs", "link_whole: Boolean = None", "export_dynamic: Boolean = None",
     "implib: Union[Boolean, String] = None", "name_suffix: String = None", "pie: Boolean = None",
     "win_subsystem: String = None"], "Executable"⟩,
   ⟨"find_program", ["*program_names: String", "required: Union[Boolean, FeatureOption] = None",
     "native: Boolean = None", "disabler: Boolean = None", "version: String = None",
     "dirs: Array[String] = None"], "ExternalProgram"⟩,
   ⟨"files", ["*list_of_files: String"], "Array[ExternalFile]"⟩,
   ⟨"generator", ["executable: Executable", "arguments: Array[Union[String, File]] = None",
     "depends: Array[Target] = None", "depend_files: Array[Union[File, String]] = None",
     "depfile: String = None", "output: String = None", "capture: Boolean = None"], "Generator"⟩,
   ⟨"get_option", ["option_name: String"], "Any"⟩,
   ⟨"get_variable", ["variable_name: String", "fallback: Any"], "Any"⟩,
   ⟨"import", ["name: String", "required: Union[Boolean, FeatureOption] = None",
     "disabler: Boolean = None"], "Module"⟩,
   ⟨"include_directories", ["*directory_names: String", "is_system: Boolean = None"],
    "IncludeDirectory"⟩]

/-- The functions from `install_data` to `project`. -/
def functionsInstallData : List CallableEntry :=
  [⟨"install_data", ["*list_of_files: Union[ExternalFile, String, Target]",
     "install_dir: String = None", "install_mode: String = None",
     "rename: Array[Union[String, File]] = None"], "None"⟩,
   ⟨"install_headers", ["*list_of_headers: Array[ExternalFile]", "install_mode: String = None",
     "subdir: String = None"], "None"⟩,
   ⟨"install_man", 
    ["*list_of_manpages: Union[ExternalFile, String, CustomTarget, CustomTargetIndex, GeneratorTarget]",
     "install_mode: String = None", "locale: String = None"], "None"⟩,
   ⟨"install_subdir", ["subdir_name: String", "exclude_files: Array[Union[String, File]] = None",
     "exclude_directories: Array[String] = None", "install_dir: String = None",
     "install_mode: String = None", "strip_directory: Boolean = None"], "None"⟩,
   ⟨"is_disabler", ["var: Any"], "Boolean"⟩,
   ⟨"is_variable", ["varname: String"], "Boolean"⟩,
   ⟨"jar", ["jar_name: String", "*sources: Union[String, Array[Union[String, File]]]",
     "..build_target_kwargs", "link_whole: Boolean = None", "export_dynamic: Boolean = None",
     "name_suffix: String = None", "main_class: String"], "Jar"⟩,
   ⟨"join_paths", ["*args: String"], "String"⟩,
   ⟨"library", ["library_name: String", "*sources: Union[String, Array[Union[String, File]]]",
     "..build_target_kwargs", "link_whole: Boolean = None", "name_prefix: String = None",
     "name_suffix: String = None", "rust_crate_type: String = None"], "Library"⟩,
   ⟨"message", ["text: Union[String, Number, Array[Union[String, Number]], Dict]"], "None"⟩,
   ⟨"warning", ["text: Union[String, Number, Array[Union[String, Number]], Dict]"], "None"⟩,
   ⟨"summary", ["key: String",
     "value: Union[Number, Boolean, String, ExternalProgram, Dependency, FeatureOption, Array]",
     "section: String = None", "bool_yn: Boolean = None", "list_sep: String = None"], "None"⟩,
   ⟨"summary", ["dictionary: Dict", "section: String = None", "bool_yn: Boolean = None",
     "list_sep: String = None"], "None"⟩,
   ⟨"project", ["project_name: String", "*list_of_languages: String",
     "default_options: Array[String] = None", "license: Union[String, Array[String]] = None",
     "meson_version: String = None", "subproject_dir: String = None", "version: String = None"],
    "None"⟩]

/-- The functions from `run_command` to `range`. -/
def functionsRunCommand : List CallableEntry :=
  [⟨"run_command", ["command: Union[String, ExternalProgram, Array[File], Compiler]",
     "check: Boolean = None", "env: Union[Array[String], Environment, Dict] = None"], "RunResult"⟩,
   ⟨"run_target", ["target_name: String", "command: Array[Union[String, Executable]] = None",
     "depends: Array[Target] = None", "env: Union[Array[String], Environment, Dict] = None"],
    "RunTarget"⟩,
   ⟨"set_variable", ["variable_name: String", "value: Any"], "None"⟩,
   ⟨"shared_library", ["library_name: String",
     "*sources: Union[String, Array[Union[String, File]]]", "..build_target_kwargs",
     "link_whole: Boolean = None", "name_prefix: String = None", "name_suffix: String = None",
     "rust_crate_type: String = None", "soversion: String = None", "version: String = None",
     "darwin_versions: Union[Number, String, Array[String]] = None",
     "vs_module_defs: Union[String, File, CustomTarget, CustomTargetIndex] = None"],
    "SharedLibrary"⟩,
   ⟨"shared_module", ["module_name: String",
     "*sources: Union[String, Array[Union[String, File]]]", "..build_target_kwargs",
     "link_whole: Boolean = None", "name_prefix: String = None", "name_suffix: String = None",
     "rust_crate_type: String = None",
     "vs_module_defs: Union[String, File, CustomTarget, CustomTargetIndex] = None"],
    "SharedModule"⟩,
   ⟨"static_library", ["library_name: String",
     "*sources: Union[String, Array[Union[String, File]]]", "..build_target_kwargs",
     "link_whole: Boolean = None", "name_prefix: String = None", "name_suffix: String = None",
     "rust_crate_type: String = None", "pic: Boolean = None", "prelink: Boolean = None"],
    "StaticLibrary"⟩,
   ⟨"subdir", ["dir_name: String", "if_found: Array[Dependency] = None"], "None"⟩,
   ⟨"subdir_done", [], "None"⟩,
   ⟨"subproject", ["subproject_name: String", "default_options: Array[String] = None",
     "version: String = None", "required: Union[Boolean, FeatureOption] = None"], "Subproject"⟩,
   ⟨"test", ["name: String",
     "executable: Union[Executable, ExternalProgram, Jar, CustomTarget, CustomTargetIndex, GeneratorTarget, ExternalFile]",
     "..test_kwargs", "is_parallel: Boolean = None"], "None"⟩,
   ⟨"unset_variable", ["var_name: String"], "None"⟩,
   ⟨"vcs_tag", ["command: Union[String, ExternalProgram, Array[File]] = None",
     "fallback: String = None", "input: File = None", "output: File = None",
     "replace_string: String = None"], "CustomTarget"⟩,
   ⟨"range", ["stop: Number"], "Range"⟩,
   ⟨"range", ["start: Number", "stop: Number", "step: Optional[Number]"], "Range"⟩]

/-- Every function. -/
def functions : List CallableEntry :=
  functionsAddGlobalArguments ++ functionsCustomTarget ++ functionsInstallData ++ functionsRunCommand

/-- The types from `Boolean` to `Meson`. -/
def typesBoolean : List TypeEntry :=
  [⟨"Boolean", none,
    [⟨"to_int", [], "Number"⟩,
     ⟨"to_string", [], "String"⟩,
     ⟨"to_string", ["true_string: String", "false_string: String"], "String"⟩]⟩,
   ⟨"Number", none,
    [⟨"__add__", ["other: Number"], "Number"⟩,
     ⟨"__mult__", ["other: Number"], "Number"⟩,
     ⟨"__mod__", ["other: Number"], "Number"⟩,
     ⟨"is_even", [], "Boolean"⟩,
     ⟨"is_odd", [], "Boolean"⟩,
     ⟨"to_string", [], "String"⟩]⟩,
   ⟨"String", none,
    [⟨"__add__", ["other: String"], "String"⟩,
     ⟨"__div__", ["other: String"], "String"⟩,
     ⟨"contains", ["string: String"], "Boolean"⟩,
     ⟨"endswith", ["string: String"], "Boolean"⟩,
     ⟨"format", ["*args: Any"], "String"⟩,
     ⟨"join", ["list_of_strings: Array[String]"], "String"⟩,
     ⟨"replace", ["old_str: String", "new_str: String"], "String"⟩,
     ⟨"split", ["split_character: Optional[String]"], "Array[String]"⟩,
     ⟨"startswith", ["string: String"], "Boolean"⟩,
     ⟨"substring", ["start: Optional[Number]", "end: Optional[Number]"], "String"⟩,
     ⟨"strip", ["string: Optional[String]"], "String"⟩,
     ⟨"to_int", [], "Number"⟩,
     ⟨"to_lower", [], "String"⟩,
     ⟨"to_upper", [], "String"⟩,
     ⟨"underscorify", [], "String"⟩,
     ⟨"version_compare", ["comparison_string: String"], "Boolean"⟩]⟩,
   ⟨"Dict", none,
    [⟨"__add__", ["other: Dict"], "Dict"⟩,
     ⟨"__contains__", ["item: String"], "Boolean"⟩,
     ⟨"has_key", ["key: String"], "Boolean"⟩,
     ⟨"get", ["key: String", "fallback: Optional[Any]"], "Any"⟩,
     ⟨"keys", [], "Array[String]"⟩]⟩,
   ⟨"Array", none,
    [⟨"__add__", ["other: Array"], "Array"⟩,
     ⟨"__getitem__", ["index: Number"], "Any"⟩,
     ⟨"__contains__", ["item: Any"], "Boolean"⟩,
     ⟨"contains", ["item: Any"], "Boolean"⟩,
     ⟨"get", ["index: Number", "fallback: Optional[Any]"], "Any"⟩,
     ⟨"length", [], "Number"⟩]⟩,
   ⟨"Meson", none,
    [⟨"add_dist_script", ["script_name: Union[File, String]", "*args: Union[File, String]"],
      "None"⟩,
     ⟨"add_install_script", ["script_name: Union[File, String]", "*args: Union[File, String]",
       "skip_if_destdir: Boolean = None"], "None"⟩,
     ⟨"add_postconf_script", ["script_name: Union[File, String]", "*args: Union[File, String]"],
      "None"⟩,
     ⟨"backend", [], "String"⟩,
     ⟨"build_root", [], "String"⟩,
     ⟨"source_root", [], "String"⟩,
     ⟨"project_build_root", [], "String"⟩,
     ⟨"global_build_root", [], "String"⟩,
     ⟨"global_source_root", [], "String"⟩,
     ⟨"current_build_dir", [], "String"⟩,
     ⟨"current_source_dir", [], "String"⟩,
     ⟨"get_compiler", ["language: String"], "Compiler"⟩,
     ⟨"get_cross_property", ["prop_name: String", "fallback_value: Any"], "Any"⟩,
     ⟨"get_external_property", ["prop_name: String", "fallback_value: Any",
       "native: Boolean = None"], "Any"⟩,
     ⟨"has_external_property", ["prop_name: String", "native: Boolean = None"], "Boolean"⟩,
     ⟨"can_run_host_binaries", [], "Boolean"⟩,
     ⟨"has_exe_wrapper", [], "Boolean"⟩,
     ⟨"install_dependency_manifest", ["output_name: Union[String, ExternalFile]"], "None"⟩,
     ⟨"is_cross_build", [], "Boolean"⟩,
     ⟨"is_subproject", [], "Boolean"⟩,
     ⟨"is_unity", [], "Boolean"⟩,
     ⟨"override_find_program", ["prog_name: String",
       "program: Union[ExternalProgram, ConfiguredFile, Executable]"], "None"⟩,
     ⟨"override_dependency", ["name: String", "dep_object: Dependency", "native: Boolean = None"],
      "None"⟩,
     ⟨"project_version", [], "String"⟩,
     ⟨"project_license", [], "Array[String]"⟩,
     ⟨"project_name", [], "String"⟩,
     ⟨"version", [], "String"⟩,
     ⟨"add_devenv", ["env: Environment"], "None"⟩]⟩]

/-- The types from `BuildMachine` to `Compiler`. -/
def typesBuildMachine : List TypeEntry :=
  [⟨"BuildMachine", none,
    [⟨"cpu_family", [], "String"⟩,
     ⟨"cpu", [], "String"⟩,
     ⟨"system", [], "String"⟩,
     ⟨"endian", [], "String"⟩]⟩,
   ⟨"HostMachine", none,
    [⟨"cpu_family", [], "String"⟩,
     ⟨"cpu", [], "String"⟩,
     ⟨"system", [], "String"⟩,
     ⟨"endian", [], "String"⟩]⟩,
   ⟨"TargetMachine", none,
    [⟨"cpu_family", [], "String"⟩,
     ⟨"cpu", [], "String"⟩,
     ⟨"system", [], "String"⟩,
     ⟨"endian", [], "String"⟩]⟩,
   ⟨"File", none,
    [⟨"full_path", [], "String"⟩]⟩,
   ⟨"ExternalFile", some "File", []⟩,
   ⟨"Target", some "File", []⟩,
   ⟨"Compiler", some "File",
    [⟨"alignment", ["type_name: String", "dependencies: Array[Dependency] = None",
       "args: Array[Union[String, File]] = None"], "Number"⟩,
     ⟨"cmd_array", [], "Array[String]"⟩,
     ⟨"compiles", ["code: Union[String, File]", "..compiler_check_kwargs", "name: String = None"],
      "Boolean"⟩,
     ⟨"compute_int", ["expr: String", "low: Number = None", "high: Number = None",
       "guess: Number = None", "no_builtin_args: Boolean = None",
       "args: Array[Union[String, File]] = None"], "Number"⟩,
     ⟨"find_library", ["lib_name: String", "required: Union[Boolean, FeatureOption] = None",
       "dirs: Union[Array[String], String] = None", "disabler: Boolean = None",
       "has_headers: Array[Union[String, File]] = None",
       "header_dependencies: Array[Dependency] = None", "header_prefix: String = None",
       "header_required: Union[Boolean, FeatureOption] = None", "static: Boolean = None"],
      "Library"⟩,
     ⟨"first_supported_argument", ["list_of_strings: Array[String]"], "Union[String, Array]"⟩,
     ⟨"first_supported_link_argument", ["list_of_strings: Array[String]"], "Union[String, Array]"⟩,
     ⟨"get_define", ["define_name: String", "prefix: String = None",
       "no_builtin_args: Boolean = None"], "String"⟩,
     ⟨"get_id", [], "String"⟩,
     ⟨"get_argument_syntax", [], "String"⟩,
     ⟨"get_linker_id", [], "String"⟩,
     ⟨"get_supported_arguments", ["list_of_string: Array[String]"], "Array[String]"⟩,
     ⟨"get_supported_link_arguments", ["list_of_string: Array[String]"], "Array[String]"⟩,
     ⟨"has_argument", ["argument_name: String"], "Boolean"⟩,
     ⟨"has_link_argument", ["argument_name: String"], "Boolean"⟩,
     ⟨"has_function", ["func_name: String", "prefix: String = None",
       "no_builtin_args: Boolean = None", "args: Array[Union[String, File]] = None"], "Boolean"⟩,
     ⟨"check_header", ["header_name: String", "..compiler_check_kwargs",
       "required: Union[Boolean, FeatureOption] = None",
       "include_directories: Array[Union[IncludeDirectory, String]] = None"], "Boolean"⟩,
     ⟨"has_header", ["header_name: String", "..compiler_check_kwargs",
       "required: Union[Boolean, FeatureOption] = None",
       "include_directories: Array[Union[IncludeDirectory, String]] = None"], "Boolean"⟩,
     ⟨"has_header_symbol", ["header_name: String", "symbol_name: String",
       "..compiler_check_kwargs", "required: Union[Boolean, FeatureOption] = None"], "Boolean"⟩,
     ⟨"has_member", ["type_name: String", "member_name: String", "..compiler_check_kwargs"],
      "Boolean"⟩,
     ⟨"has_members", ["type_name: String", "*member_name: String", "..compiler_check_kwargs"],
      "Boolean"⟩,
     ⟨"has_multi_arguments", ["*argument_names: String"], "Boolean"⟩,
     ⟨"has_multi_link_arguments", ["*argument_names: String"], "Boolean"⟩,
     ⟨"has_type", ["type_name: String", "..compiler_check_kwargs"], "Boolean"⟩,
     ⟨"links", ["code: Union[String, File]", "..compiler_check_kwargs", "name: String = None"],
      "Boolean"⟩,
     ⟨"run", ["code: Union[String, File]", "..compiler_check_kwargs", "name: String = None"],
      "CompilationRunResult"⟩,
     ⟨"symbols_have_underscore_prefix", [], "Boolean"⟩,
     ⟨"sizeof", ["type_name: String", "..compiler_check_kwargs"], "Number"⟩,
     ⟨"version", [], "String"⟩,
     ⟨"has_function_attribute", ["name: String"], "Boolean"⟩,
     ⟨"get_supported_function_attributes", ["list_of_names: Array[String]"], "Array[String]"⟩]⟩]

/-- The types from `BuildTarget` to `CompilationRunResult`. -/
def typesBuildTarget : List TypeEntry :=
  [⟨"BuildTarget", some "Target",
    [⟨"extract_all_objects", ["recursive: Boolean = None"], "Array[File]"⟩,
     ⟨"extract_objects", ["*sources: Union[String, ExternalFile]"], "Array[File]"⟩,
     ⟨"private_dir_include", [], "IncludeDirectory"⟩,
     ⟨"name", [], "String"⟩,
     ⟨"found", [], "Boolean"⟩]⟩,
   ⟨"ConfigurationData", none,
    [⟨"get", ["var_name: String", "default_value: Optional[Union[Boolean, Number, String]]"],
      "Union[Boolean, Number, String]"⟩,
     ⟨"get_unquoted", ["var_name: String",
       "default_value: Optional[Union[Boolean, Number, String]]"],
      "Union[Boolean, Number, String]"⟩,
     ⟨"has", ["var_name: String"], "Boolean"⟩,
     ⟨"keys", [], "Array[String]"⟩,
     ⟨"merge_from", ["other: ConfigurationData"], "None"⟩,
     ⟨"set", ["var_name: String", "value: Union[Boolean, Number, String]",
       "description: String = None"], "None"⟩,
     ⟨"set10", ["var_name: String", "boolean_value: Union[Boolean, Number, String]",
       "description: String = None"], "None"⟩,
     ⟨"set_quoted", ["var_name: String", "value: String", "description: String = None"], "None"⟩]⟩,
   ⟨"ConfiguredFile", some "File", []⟩,
   ⟨"CustomTarget", some "Target",
    [⟨"__getitem__", ["index: Number"], "CustomTargetIndex"⟩,
     ⟨"to_list", [], "Array[CustomTarget]"⟩]⟩,
   ⟨"CustomTargetIndex", some "Target", []⟩,
   ⟨"Dependency", none,
    [⟨"found", [], "Boolean"⟩,
     ⟨"name", [], "String"⟩,
     ⟨"type_name", [], "String"⟩,
     ⟨"version", [], "String"⟩,
     ⟨"include_type", [], "String"⟩,
     ⟨"as_system", ["value: Optional[String]"], "Dependency"⟩,
     ⟨"as_link_whole", [], "Dependency"⟩,
     ⟨"partial_dependency", ["..partial_dependency_kwargs"], "Dependency"⟩,
     ⟨"get_variable", ["var_name: String", "cmake: String = None", "pkgconfig: String = None",
       "configtool: String = None", "internal: String = None", "default_value: String = None",
       "pkgconfig_define: Array[String] = None"], "String"⟩]⟩,
   ⟨"Disabler", none,
    [⟨"found", [], "Boolean"⟩]⟩,
   ⟨"ExternalProgram", some "File",
    [⟨"found", [], "Boolean"⟩]⟩,
   ⟨"Environment", none,
    [⟨"append", ["var_name: String", "*args: String", "separator: String = None"], "None"⟩,
     ⟨"prepend", ["var_name: String", "*args: String", "separator: String = None"], "None"⟩,
     ⟨"set", ["var_name: String", "*args: String", "separator: String = None"], "None"⟩]⟩,
   ⟨"ExternalLibrary", none,
    [⟨"found", [], "Boolean"⟩,
     ⟨"type_name", [], "String"⟩,
     ⟨"partial_dependency", ["..partial_dependency_kwargs"], "Dependency"⟩]⟩,
   ⟨"FeatureOption", none,
    [⟨"enabled", [], "Boolean"⟩,
     ⟨"disabled", [], "Boolean"⟩,
     ⟨"auto", [], "Boolean"⟩,
     ⟨"allowed", [], "Boolean"⟩,
     ⟨"disable_auto_if", ["value: Boolean"], "FeatureOption"⟩,
     ⟨"require", ["value: Boolean", "error_message: String = None"], "FeatureOption"⟩]⟩,
   ⟨"Generator", none,
    [⟨"process", ["list_of_files: Array[File]", "extra_args: Array[Union[String, File]] = None",
       "preserve_path_from: String = None"], "GeneratorTarget"⟩]⟩,
   ⟨"GeneratorTarget", some "Target", []⟩,
   ⟨"Subproject", none,
    [⟨"found", [], "Boolean"⟩,
     ⟨"get_variable", ["name: String", "fallback: Any"], "Any"⟩]⟩,
   ⟨"RunResult", none,
    [⟨"returncode", [], "Number"⟩,
     ⟨"stderr", [], "String"⟩,
     ⟨"stdout", [], "String"⟩]⟩,
   ⟨"CompilationRunResult", some "RunResult",
    [⟨"compiled", [], "Boolean"⟩]⟩]

/-- The types from `Module` to `SharedModule`. -/
def typesModule : List TypeEntry :=
  [⟨"Module", none,
    [⟨"found", [], "Boolean"⟩]⟩,
   ⟨"Range", none,
    [⟨"__getitem__", ["index: Number"], "Number"⟩]⟩,
   ⟨"IncludeDirectory", none, []⟩,
   ⟨"Library", some "BuildTarget", []⟩,
   ⟨"SharedLibrary", some "Library", []⟩,
   ⟨"StaticLibrary", some "Library", []⟩,
   ⟨"Jar", some "BuildTarget", []⟩,
   ⟨"Executable", some "BuildTarget", []⟩,
   ⟨"RunTarget", some "Target", []⟩,
   ⟨"BothLibraries", some "BuildTarget",
    [⟨"get_shared_lib", [], "Library"⟩,
     ⟨"get_static_lib", [], "Library"⟩]⟩,
   ⟨"SharedModule", some "BuildTarget", []⟩]

/-- Every type. -/
def types : List TypeEntry :=
  typesBoolean ++ typesBuildMachine ++ typesBuildTarget ++ typesModule

/-- The whole document. -/
def document : Document where
  schemaVersion := 1
  paramSets :=
    [("build_target_kwargs", buildTargetKwargs),
     ("compiler_check_kwargs", compilerCheckKwargs),
     ("partial_dependency_kwargs", partialDependencyKwargs),
     ("test_kwargs", testKwargs)]
  functions := functions
  types := types

end SignatureAudit.Catalog.Bundled

/-- The bundled catalog. -/
def SignatureAudit.Catalog.bundled : Except SignatureAudit.Catalog.Fault SignatureAudit.Catalog :=
  ofDocument Bundled.document
