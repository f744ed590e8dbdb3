/-!
# Media types of texts

Types `text/…` and the extensions of their files.
-/

namespace AuthGateway.MediaType

/-- The types of texts, with their extensions. -/
def texts : List (String × String) :=
  [("text/cache-manifest", "appcache"),
   ("text/calendar", "ics ifb"),
   ("text/coffeescript", "coffee litcoffee"),
   ("text/css", "css"),
   ("text/csv", "csv"),
   ("text/dlm", "dlm"),
   ("text/gemini", "gemini gmi"),
   ("text/h323", "323"),
   ("text/html", "htm html hxt shtml"),
   ("text/iuls", "uls"),
   ("text/jade", "jade"),
   ("text/javascript", "ecma es js jsm jsx"),
   ("text/less", "less"),
   ("text/markdown", "markdown md"),
   ("text/mathml", "mml"),
   ("text/n3", "n3"),
   ("text/plain", "asm bas c cc cd cfg cmd cnf conf cpp cs csdproj csproj cxx dbproj def dsw"),
   ("text/plain", "h hh hpp hxx i idl in inc ini inl ipproj jsxbin list log lst mak map mk"),
   ("text/plain", "odh odl pkgdef pkgundef py rc rc2 rct reg rgs s scr sln sol sor srf text"),
   ("text/plain", "tlh tli txt user vb vbdproj vbproj vcs vddproj vdp vdproj vspscc vsscc"),
   ("text/plain", "vssscc xdr xoml"),
   ("text/prs.lines.tag", "dsc"),
   ("text/richtext", "rtx"),
   ("text/scriptlet", "sct wsc"),
   ("text/sgml", "sgm sgml"),
   ("text/shex", "shex"),
   ("text/slim", "slim slm"),
   ("text/stylus", "styl stylus"),
   ("text/tab-separated-values", "tsv"),
   ("text/turtle", "ttl"),
   ("text/uri-list", "uri uris urls"),
   ("text/vbscript", "vbs"),
   ("text/vcard", "vcard"),
   ("text/vnd.curl", "curl"),
   ("text/vnd.curl.dcurl", "dcurl"),
   ("text/vnd.curl.mcurl", "mcurl"),
   ("text/vnd.curl.scurl", "scurl"),
   ("text/vnd.dvb.subtitle", "sub"),
   ("text/vnd.fly", "fly"),
   ("text/vnd.fmi.flexstor", "flx"),
   ("text/vnd.graphviz", "gv"),
   ("text/vnd.in3d.3dml", "3dml"),
   ("text/vnd.in3d.spot", "spot"),
   ("text/vnd.sun.j2me.app-descriptor", "jad"),
   ("text/vnd.wap.wml", "wml"),
   ("text/vnd.wap.wmlscript", "wmls"),
   ("text/vtt", "vtt"),
   ("text/webviewhtml", "htt"),
   ("text/x-c", "dic"),
   ("text/x-component", "htc"),
   ("text/x-fortran", "f f77 f90 for"),
   ("text/x-gherkin", "feature"),
   ("text/x-handlebars-template", "hbs"),
   ("text/x-hdml", "hdml"),
   ("text/x-html-insertion", "qht qhtm"),
   ("text/x-lua", "lua"),
   ("text/x-markdown", "mkd"),
   ("text/x-ms-contact", "contact"),
   ("text/x-ms-group", "group"),
   ("text/x-ms-iqy", "iqy"),
   ("text/x-ms-rqy", "rqy"),
   ("text/x-nfo", "nfo"),
   ("text/x-opml", "opml"),
   ("text/x-pascal", "p pas"),
   ("text/x-processing", "pde"),
   ("text/x-rust", "rs"),
   ("text/x-sass", "sass"),
   ("text/x-scss", "scss"),
   ("text/x-setext", "etx"),
   ("text/x-sfv", "sfv"),
   ("text/x-suse-ymp", "ymp"),
   ("text/x-toml", "toml"),
   ("text/x-uuencode", "uu"),
   ("text/x-vcard", "vcf"),
   ("text/x-yaml", "yaml yml"),
   ("text/xml", "addin disco dtd dtsconfig mno ssisdeploymentmanifest vml vsct vsixlangpack"),
   ("text/xml", "vsixmanifest vssettings vstemplate wsdl xml xrm-ms xsd xsf xsl xslt")]

end AuthGateway.MediaType
